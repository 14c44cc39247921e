/-
# Round trips of a configuration

A configuration comes out of its text as it went in exactly when every value is clean and
accepted. The Control API checks none of the values of a peer, so one of them may end its
line and begin a section of its own.
-/

import Tunnara.WireGuard.Printing

namespace Tunnara.WireGuard

open Lines Control OrdMap

variable {host : Host} {kit : WireGuardKit} {hooks : List String}

/-! ## Sections -/

variable {key : String} {state committed : ParserState} {accepts : String → Bool}
  {invalid : String → ParseError} {attributes : Attributes} {endpoint : Option String}

theorem allowed_interface (h : key ∈ interfaceKeys) :
    (allowedKeys hooks .interface).contains key = true := by
  simp [allowedKeys, h]

theorem allowed_peer (h : key ∈ peerKeys) : (allowedKeys hooks .peer).contains key = true := by
  simp [allowedKeys, h]

theorem reads_peerHeader (hcommit : commitCurrentSection kit state = .ok committed) :
    Reads kit hooks ["", "[Peer]"] state { committed with currentSection := some .peer } := by
  intro lineNumber
  show (parseLine kit hooks (lineNumber + 1) "[Peer]".toList state).bind
    (parseLines kit hooks (lineNumber + 2) []) = _
  have htrim : trim (withoutComment "[Peer]".toList) = "[Peer]".toList := by decide
  unfold parseLine
  rw [htrim, if_neg (by decide), if_neg (by decide), if_pos (by decide), hcommit]
  rfl

theorem reads_interfaceHeader :
    Reads kit hooks ["[Interface]"] {} { currentSection := some .interface } := by
  intro lineNumber
  show (parseLine kit hooks lineNumber "[Interface]".toList {}).bind
    (parseLines kit hooks (lineNumber + 1) []) = _
  have htrim : trim (withoutComment "[Interface]".toList) = "[Interface]".toList := by decide
  unfold parseLine
  rw [htrim, if_neg (by decide), if_pos (by decide)]
  rfl

theorem attributes_of_commit (h : commitCurrentSection kit state = .ok committed) :
    committed.attributes = .empty := by
  unfold commitCurrentSection at h
  split at h
  · cases h
    rfl
  · split at h
    · cases h
    · obtain ⟨made, -, h⟩ := bind_eq_ok.1 h
      cases h
      rfl
  · obtain ⟨made, -, h⟩ := bind_eq_ok.1 h
    cases h
    rfl

/-! ## A list of a section -/

theorem readItems_of_accepted {items : List String} (h : ∀ item ∈ items, accepts item = true) :
    readItems accepts invalid items = .ok items := by
  induction items with
  | nil => rfl
  | cons item rest ih =>
    rw [readItems, if_pos (h item List.mem_cons_self),
      ih fun other hother => h other (List.mem_cons_of_mem item hother)]
    rfl

theorem readList_of_items {items : List String}
    (hvalue : attributes.get? key = some (", ".intercalate items)) (hne : items ≠ [])
    (hitems : ∀ item ∈ items, Item item) (haccepts : ∀ item ∈ items, accepts item = true) :
    readList attributes key accepts invalid = .ok items := by
  unfold readList
  rw [hvalue]
  dsimp only
  rw [splitCommaSeparated_intercalate hne hitems, readItems_of_accepted haccepts]

theorem mapM_ne_nil {α β ε : Type} {f : α → Except ε β} {items : List α} {made : List β}
    (h : items.mapM f = .ok made) (hne : items ≠ []) : made ≠ [] := by
  obtain ⟨item, rest, rfl⟩ := List.exists_cons_of_ne_nil hne
  rw [List.mapM_cons] at h
  obtain ⟨first, -, h⟩ := bind_eq_ok.1 h
  obtain ⟨others, -, h⟩ := bind_eq_ok.1 h
  cases h
  exact List.cons_ne_nil _ _

theorem allowedOf_ne_nil {remote : PeerRow} {allowed : List String}
    (h : allowedOf host remote = .ok allowed) : allowed ≠ [] := by
  unfold allowedOf at h
  split at h
  · cases h
    exact List.cons_ne_nil _ _
  · rename_i hne
    exact mapM_ne_nil h hne

/-! ## A peer -/

theorem keepalive_text {remote : PeerRow} {n : ℕ} (hn : n ≤ 65535)
    (hstored : remote.persistentKeepalive.value = .fin n) :
    (keepaliveOf remote).map (numberText host) = if n = 0 then none else some (toString n) := by
  unfold keepaliveOf
  rw [hstored]
  dsimp only
  by_cases hzero : n = 0
  · rw [if_pos hzero, if_pos (by exact_mod_cast hzero)]
    rfl
  · rw [if_neg hzero, if_neg (by exact_mod_cast hzero), Option.map_some, numberText_natCast hn]

def peerAttributes (key allowed : String) (endpoint keepalive : Option String) : Attributes :=
  setOptional "persistentkeepalive" keepalive (setOptional "endpoint" endpoint
    ((OrdMap.empty.set "publickey" key).set "allowedips" allowed))

theorem get?_peerAttributes (key allowed : String) (endpoint keepalive : Option String) :
    (peerAttributes key allowed endpoint keepalive).get? "publickey" = some key ∧
    (peerAttributes key allowed endpoint keepalive).get? "allowedips" = some allowed ∧
    (peerAttributes key allowed endpoint keepalive).get? "endpoint" = endpoint ∧
    (peerAttributes key allowed endpoint keepalive).get? "persistentkeepalive" = keepalive ∧
    (peerAttributes key allowed endpoint keepalive).get? "presharedkey" = none := by
  unfold peerAttributes
  simp [get?_setOptional, get?_set]

theorem makePeer_of_read {allowed : List String} {keepalive : Option ℕ}
    (hkey : attributes.get? "publickey" = some key) (haccepted : (kit.publicKey key).isSome = true)
    (hpreShared : attributes.get? "presharedkey" = none)
    (hallowed : readList attributes "allowedips" kit.isAddressRange .invalidAllowedIP = .ok allowed)
    (hendpoint : readValue attributes "endpoint" kit.isEndpoint .invalidEndpoint = .ok endpoint)
    (hkeepalive : readNumber attributes "persistentkeepalive" .invalidPersistentKeepAlive =
      .ok keepalive) : makePeer kit attributes = .ok ⟨key, none, allowed, endpoint, keepalive⟩ := by
  have hnone : ¬ (kit.publicKey key).isNone = true := by
    rw [Option.isNone_iff_eq_none]
    exact Option.isSome_iff_ne_none.1 haccepted
  have hread : readValue attributes "presharedkey" kit.isPreSharedKey
      (fun _ => .invalidPreSharedKey) = .ok none := by
    unfold readValue
    rw [hpreShared]
  unfold makePeer
  rw [hkey]
  dsimp only
  rw [if_neg hnone, hread, hallowed, hendpoint, hkeepalive]
  rfl

theorem readEndpoint (hvalue : attributes.get? "endpoint" = endpoint)
    (haccepted : ∀ value, endpoint = some value → kit.isEndpoint value = true) :
    readValue attributes "endpoint" kit.isEndpoint .invalidEndpoint = .ok endpoint := by
  unfold readValue
  rw [hvalue]
  cases endpoint with
  | none => rfl
  | some value => exact if_pos (haccepted value rfl)

theorem readKeepalive {n : ℕ} (hn : n ≤ 65535) (hvalue : attributes.get? "persistentkeepalive" =
      if n = 0 then none else some (toString n)) :
    readNumber attributes "persistentkeepalive" .invalidPersistentKeepAlive =
      .ok (if n = 0 then none else some n) := by
  unfold readNumber
  rw [hvalue]
  by_cases hzero : n = 0
  · rw [if_pos hzero, if_pos hzero]
  · rw [if_neg hzero, if_neg hzero]
    dsimp only
    rw [readUInt16_toString hn]

def sectionLines (key allowed : String) (endpoint keepalive : Option String) : List String :=
  ["", "[Peer]"] ++ [attributeLine "PublicKey" key] ++ [attributeLine "AllowedIPs" allowed] ++
    optionalLine "Endpoint" endpoint ++ optionalLine "PersistentKeepalive" keepalive

theorem reads_sectionLines {allowed : String} {keepalive : Option String} (hkey : Clean key)
    (hallowed : Clean allowed) (hendpoint : ∀ value, endpoint = some value → Clean value)
    (hkeepalive : ∀ value, keepalive = some value → Clean value)
    (hcommit : commitCurrentSection kit state = .ok committed) :
    Reads kit hooks (sectionLines key allowed endpoint keepalive) state { committed with
      currentSection := some .peer
      attributes := peerAttributes key allowed endpoint keepalive } := by
  obtain ⟨section?, attributes, interface, peers⟩ := committed
  have hempty : attributes = .empty := attributes_of_commit hcommit
  subst hempty
  have hpublicKey : lowercased "PublicKey".toList = "publickey" := by decide
  have hallowedIPs : lowercased "AllowedIPs".toList = "allowedips" := by decide
  have hendpointKey : lowercased "Endpoint".toList = "endpoint" := by decide
  have hkeepaliveKey : lowercased "PersistentKeepalive".toList = "persistentkeepalive" := by decide
  apply Reads.append
  · apply Reads.append
    · apply Reads.append
      · apply Reads.append
        · exact reads_peerHeader hcommit
        · apply Reads.attribute (keyText (by decide)) hkey rfl (allowed_peer (by decide))
          rfl
      · apply Reads.attribute (keyText (by decide)) hallowed rfl (allowed_peer (by decide))
        rw [hpublicKey, hallowedIPs]
        rfl
    · apply Reads.optional (keyText (by decide)) hendpoint rfl (allowed_peer (by decide))
      rw [hpublicKey, hallowedIPs, hendpointKey]
      rfl
  · apply Reads.optional (keyText (by decide)) hkeepalive rfl (allowed_peer (by decide))
    rw [hpublicKey, hallowedIPs, hendpointKey, hkeepaliveKey, get?_setOptional]
    rfl

theorem newline_attributeLine {value : String} (hkey : KeyText key) (hvalue : Clean value) :
    ∀ c ∈ (attributeLine key value).toList, isNewline c = false := by
  intro c hc
  rw [toList_attributeLine, List.mem_append, List.mem_cons, List.mem_cons, List.mem_cons] at hc
  rcases hc with hc | rfl | rfl | rfl | hc
  · exact hkey.newline c hc
  · decide
  · decide
  · decide
  · exact hvalue.newline c hc

theorem newline_optionalLine {value? : Option String} (hkey : KeyText key)
    (hvalue : ∀ value, value? = some value → Clean value) :
    ∀ line ∈ optionalLine key value?, ∀ c ∈ line.toList, isNewline c = false := by
  cases value? with
  | none => exact fun _ hmem => (nomatch hmem)
  | some value =>
    intro line hline
    rw [List.mem_singleton.1 hline]
    exact newline_attributeLine hkey (hvalue value rfl)

theorem newline_sectionLines {allowed : String} {keepalive : Option String} (hkey : Clean key)
    (hallowed : Clean allowed) (hendpoint : ∀ value, endpoint = some value → Clean value)
    (hkeepalive : ∀ value, keepalive = some value → Clean value) :
    ∀ line ∈ sectionLines key allowed endpoint keepalive,
      ∀ c ∈ line.toList, isNewline c = false := by
  intro line hline
  rw [sectionLines, List.mem_append, List.mem_append, List.mem_append, List.mem_append] at hline
  rcases hline with (((hline | hline) | hline) | hline) | hline
  · have hheader : ∀ line ∈ ["", "[Peer]"], (line.toList.all fun c => !isNewline c) = true := by
      decide
    intro c hc
    simpa using List.all_eq_true.1 (hheader line hline) c hc
  · rw [List.mem_singleton.1 hline]
    exact newline_attributeLine (keyText (by decide)) hkey
  · rw [List.mem_singleton.1 hline]
    exact newline_attributeLine (keyText (by decide)) hallowed
  · exact newline_optionalLine (keyText (by decide)) hendpoint line hline
  · exact newline_optionalLine (keyText (by decide)) hkeepalive line hline

theorem reads_peer {remote : PeerRow × String} (h : PrintablePeer host kit remote)
    {state committed : ParserState} (hcommit : commitCurrentSection kit state = .ok committed) :
    ∃ lines made next, peerLines host remote = .ok lines ∧ Carries host remote made ∧
      Reads kit hooks lines state next ∧
      commitCurrentSection kit next =
        .ok { committed with
          currentSection := some .peer, peers := committed.peers ++ [made] } ∧
      ∀ line ∈ lines, ∀ c ∈ line.toList, isNewline c = false := by
  obtain ⟨allowed, hallowed, hitems⟩ := h.allowedIps
  obtain ⟨n, hn, hstored⟩ := h.persistentKeepalive
  obtain ⟨section?, attributes, interface, peers⟩ := committed
  have hempty : attributes = .empty := attributes_of_commit hcommit
  subst hempty
  have htext : (keepaliveOf remote.1).map (numberText host) =
      if n = 0 then none else some (toString n) := keepalive_text hn hstored
  have hkeepalive : ∀ value, (if n = 0 then none else some (toString n)) = some value →
      Clean value := by
    intro value hvalue
    split at hvalue
    · cases hvalue
    · cases hvalue
      exact clean_toString
  have hendpoint : ∀ value, truthy remote.1.endpoint = some value → Clean value :=
    fun value hvalue => (h.endpoint value hvalue).1
  have hlist : Clean (", ".intercalate allowed) :=
    clean_intercalate (allowedOf_ne_nil hallowed) fun item hitem => (hitems item hitem).1
  have hget := get?_peerAttributes remote.2 (", ".intercalate allowed) (truthy remote.1.endpoint)
    (if n = 0 then none else some (toString n))
  have hmade := makePeer_of_read hget.1 h.publicKey.2 hget.2.2.2.2
    (readList_of_items hget.2.1 (allowedOf_ne_nil hallowed)
      (fun item hitem => (hitems item hitem).1) fun item hitem => (hitems item hitem).2)
    (readEndpoint hget.2.2.1 fun value hvalue => (h.endpoint value hvalue).2)
    (readKeepalive hn hget.2.2.2.1)
  refine ⟨sectionLines remote.2 (", ".intercalate allowed) (truthy remote.1.endpoint)
    (if n = 0 then none else some (toString n)),
    ⟨remote.2, none, allowed, truthy remote.1.endpoint, if n = 0 then none else some n⟩, _,
    ?lines, ?carries,
    reads_sectionLines h.publicKey.1 hlist hendpoint hkeepalive hcommit, ?commit,
    newline_sectionLines h.publicKey.1 hlist hendpoint hkeepalive⟩
  case lines =>
    unfold peerLines
    rw [hallowed, htext]
    rfl
  case commit =>
    unfold commitCurrentSection
    rw [hmade]
    rfl
  case carries =>
    refine ⟨rfl, hallowed, rfl, ?_, rfl⟩
    rw [hstored]
    by_cases hzero : n = 0
    · rw [if_pos hzero, hzero]
      rfl
    · rw [if_neg hzero]
      rfl

theorem reads_remotes {remotes : List (PeerRow × String)}
    (h : ∀ remote ∈ remotes, PrintablePeer host kit remote) {state committed : ParserState}
    (hcommit : commitCurrentSection kit state = .ok committed) :
    ∃ sections made next last, remotes.mapM (peerLines host) = .ok sections ∧
      List.Forall₂ (Carries host) remotes made ∧
      Reads kit hooks sections.flatten state next ∧
      commitCurrentSection kit next = .ok last ∧
      last.interfaceConfiguration = committed.interfaceConfiguration ∧
      last.peers = committed.peers ++ made ∧
      ∀ line ∈ sections.flatten, ∀ c ∈ line.toList, isNewline c = false := by
  induction remotes generalizing state committed with
  | nil =>
    exact ⟨[], [], state, committed, rfl, .nil, .nil state, hcommit, rfl,
      (List.append_nil _).symm, fun _ hmem => (nomatch hmem)⟩
  | cons remote remotes ih =>
    obtain ⟨lines, made, middle, hlines, hcarries, hreads, hmiddle, hnewline⟩ :=
      @reads_peer host kit hooks remote (h remote List.mem_cons_self) state committed hcommit
    obtain ⟨sections, others, next, last, hsections, hothers, hrest, hlast, hinterface, hpeers,
      hnewlines⟩ := ih (fun other hother => h other (List.mem_cons_of_mem remote hother)) hmiddle
    refine ⟨lines :: sections, made :: others, next, last, ?_, .cons hcarries hothers, ?_, hlast,
      hinterface, ?_, ?_⟩
    · rw [List.mapM_cons, hlines, hsections]
      rfl
    · rw [List.flatten_cons]
      exact hreads.append hrest
    · rw [hpeers, List.append_assoc]
      rfl
    · intro line hline
      rw [List.flatten_cons, List.mem_append] at hline
      exact hline.elim (hnewline line) (hnewlines line)

/-! ## The interface -/

def interfaceAttributes (privateKey address : String) (dns : Option String) : Attributes :=
  setOptional "dns" dns ((OrdMap.empty.set "privatekey" privateKey).set "address" address)

theorem get?_interfaceAttributes (privateKey address : String) (dns : Option String) :
    (interfaceAttributes privateKey address dns).get? "privatekey" = some privateKey ∧
    (interfaceAttributes privateKey address dns).get? "address" = some address ∧
    (interfaceAttributes privateKey address dns).get? "dns" = dns ∧
    (interfaceAttributes privateKey address dns).get? "listenport" = none ∧
    (interfaceAttributes privateKey address dns).get? "mtu" = none := by
  unfold interfaceAttributes
  simp [get?_setOptional, get?_set]

theorem hooks_interfaceAttributes (privateKey address : String) (dns : Option String) :
    ((interfaceAttributes privateKey address dns).entries.filter fun e =>
      !interfaceKeys.contains e.1) = [] := by
  apply List.filter_eq_nil_iff.2
  intro e he
  have hget : (interfaceAttributes privateKey address dns).get? e.1 = some e.2 :=
    get?_eq_some_iff.2 he
  have hkey : e.1 = "dns" ∨ e.1 = "address" ∨ e.1 = "privatekey" := by
    by_contra hnot
    rw [not_or, not_or] at hnot
    unfold interfaceAttributes at hget
    rw [get?_setOptional, if_neg hnot.1, get?_set_of_ne _ hnot.2.1,
      get?_set_of_ne _ hnot.2.2] at hget
    cases hget
  rcases hkey with hkey | hkey | hkey
  · rw [hkey]
    decide
  · rw [hkey]
    decide
  · rw [hkey]
    decide

theorem readList_of_item {value : String} (hvalue : attributes.get? key = some value)
    (hitem : Item value) (haccepts : accepts value = true) :
    readList attributes key accepts invalid = .ok [value] := by
  apply readList_of_items
  · rw [hvalue, String.intercalate_singleton]
  · exact List.cons_ne_nil _ _
  · intro item hmem
    rw [List.mem_singleton.1 hmem]
    exact hitem
  · intro item hmem
    rw [List.mem_singleton.1 hmem]
    exact haccepts

def readInterface (kit : WireGuardKit) (privateKey address : String) (dns : Option String) :
    InterfaceConfiguration where
  privateKey := privateKey
  listenPort := none
  addresses := [address]
  dns := dns.toList.filter kit.isDnsServer
  dnsSearch := dns.toList.filter fun value => !kit.isDnsServer value
  mtu := none
  hooks := []

theorem makeInterface_interfaceAttributes {privateKey address : String} {dns : Option String}
    (hprivateKey : kit.isPrivateKey privateKey = true) (haddress : Item address)
    (hrange : kit.isAddressRange address = true) (hdns : ∀ value, dns = some value →
      Item value ∧ (kit.isDnsServer value || isValidSearchDomain kit value) = true) :
    makeInterface kit (interfaceAttributes privateKey address dns) =
      .ok (readInterface kit privateKey address dns) := by
  obtain ⟨hkey, haddressKey, hdnsKey, hlistenPort, hmtu⟩ :=
    get?_interfaceAttributes privateKey address dns
  have hreadAddress : readList (interfaceAttributes privateKey address dns) "address"
      kit.isAddressRange .invalidAddress = .ok [address] :=
    readList_of_item haddressKey haddress hrange
  have hreadDns : readList (interfaceAttributes privateKey address dns) "dns"
      (fun value => kit.isDnsServer value || isValidSearchDomain kit value) .invalidDNS =
        .ok dns.toList := by
    cases dns with
    | none =>
      unfold readList
      rw [hdnsKey]
      rfl
    | some value => exact readList_of_item hdnsKey (hdns value rfl).1 (hdns value rfl).2
  unfold makeInterface readNumber
  rw [hkey]
  dsimp only
  rw [if_neg (by simp [hprivateKey]), hlistenPort, hreadAddress, hreadDns, hmtu,
    hooks_interfaceAttributes]
  rfl

theorem toList_filter_append (p : String → Bool) (value? : Option String) :
    value?.toList.filter p ++ value?.toList.filter (fun value => !p value) = value?.toList := by
  cases value? with
  | none => rfl
  | some value => cases hp : p value <;> simp [hp]

/-! ## Both directions -/

section Directions

variable {network : Control.NetworkRow} {peer : PeerRow} {peers : List PeerRow}
  {privateKey : String} {dns : Option String}

theorem exists_of_forall₂ {α β : Type} {R : α → β → Prop} {first : List α} {second : List β}
    (h : List.Forall₂ R first second) {x : α} (hx : x ∈ first) : ∃ y ∈ second, R x y := by
  induction h with
  | nil => cases hx
  | cons hxy _ ih =>
    rcases List.mem_cons.1 hx with rfl | hx
    · exact ⟨_, List.mem_cons_self, hxy⟩
    · obtain ⟨y, hy, hR⟩ := ih hx
      exact ⟨y, List.mem_cons_of_mem _ hy, hR⟩

theorem keys_of_carries {remotes : List (PeerRow × String)} {made : List PeerConfiguration}
    (h : List.Forall₂ (Carries host) remotes made) :
    (made.map fun peer => kit.publicKey peer.publicKey) =
      remotes.map fun remote => kit.publicKey remote.2 := by
  induction h with
  | nil => rfl
  | cons hcarries _ ih => rw [List.map_cons, List.map_cons, ih, hcarries.publicKey]

theorem printable_of_roundTrips (h : RoundTrips host kit hooks network peer peers privateKey dns) :
    Printable host kit network peer peers privateKey dns := by
  obtain ⟨text, config, -, hparse, hprivateKey, haddresses, hdns, -, -, -, hpeers⟩ := h
  obtain ⟨hinterface, hsound, hdistinct⟩ := sound_parse hparse
  constructor
  case privateKey =>
    rw [← hprivateKey]
    exact hinterface.privateKey
  case address =>
    apply hinterface.addresses
    rw [haddresses]
    exact List.mem_singleton.2 rfl
  case dns =>
    intro value hvalue
    apply hinterface.dns
    rw [hdns, hvalue]
    exact List.mem_singleton.2 rfl
  case remotes =>
    intro remote hremote
    obtain ⟨made, hmade, hcarries⟩ := exists_of_forall₂ hpeers hremote
    have hpeer := hsound made hmade
    constructor
    case publicKey =>
      rw [← hcarries.publicKey]
      exact hpeer.publicKey
    case allowedIps => exact ⟨made.allowedIPs, hcarries.allowedIPs, hpeer.allowedIPs⟩
    case endpoint =>
      intro value hvalue
      exact hpeer.endpoint value (hcarries.endpoint.trans hvalue)
    case persistentKeepalive =>
      refine ⟨made.persistentKeepAlive.getD 0, ?_, hcarries.persistentKeepAlive⟩
      cases hkeepalive : made.persistentKeepAlive with
      | none => exact Nat.zero_le _
      | some n => exact hpeer.persistentKeepAlive n hkeepalive
  case keys_distinct =>
    rw [← keys_of_carries hpeers]
    exact hdistinct

def interfaceLines (privateKey address : String) (dns : Option String) : List String :=
  ["[Interface]"] ++ [attributeLine "PrivateKey" privateKey] ++
    [attributeLine "Address" address] ++ optionalLine "DNS" dns

theorem reads_interfaceLines {privateKey address : String} {dns : Option String}
    (hprivateKey : Clean privateKey) (haddress : Clean address)
    (hdns : ∀ value, dns = some value → Clean value) :
    Reads kit hooks (interfaceLines privateKey address dns) {} {
      currentSection := some .interface
      attributes := interfaceAttributes privateKey address dns } := by
  have hprivateKeyKey : lowercased "PrivateKey".toList = "privatekey" := by decide
  have haddressKey : lowercased "Address".toList = "address" := by decide
  have hdnsKey : lowercased "DNS".toList = "dns" := by decide
  apply Reads.append
  · apply Reads.append
    · apply Reads.append reads_interfaceHeader
      apply Reads.attribute (keyText (by decide)) hprivateKey rfl (allowed_interface (by decide))
      rfl
    · apply Reads.attribute (keyText (by decide)) haddress rfl (allowed_interface (by decide))
      rw [hprivateKeyKey, haddressKey]
      rfl
  · apply Reads.optional (keyText (by decide)) hdns rfl (allowed_interface (by decide))
    rw [hprivateKeyKey, haddressKey, hdnsKey]
    rfl

theorem newline_interfaceLines {privateKey address : String} {dns : Option String}
    (hprivateKey : Clean privateKey) (haddress : Clean address)
    (hdns : ∀ value, dns = some value → Clean value) :
    ∀ line ∈ interfaceLines privateKey address dns, ∀ c ∈ line.toList, isNewline c = false := by
  intro line hline
  rw [interfaceLines, List.mem_append, List.mem_append, List.mem_append] at hline
  rcases hline with ((hline | hline) | hline) | hline
  · have hheader : ∀ line ∈ ["[Interface]"], (line.toList.all fun c => !isNewline c) = true := by
      decide
    intro c hc
    simpa using List.all_eq_true.1 (hheader line hline) c hc
  · rw [List.mem_singleton.1 hline]
    exact newline_attributeLine (keyText (by decide)) hprivateKey
  · rw [List.mem_singleton.1 hline]
    exact newline_attributeLine (keyText (by decide)) haddress
  · exact newline_optionalLine (keyText (by decide)) hdns line hline

theorem roundTrips_of_printable (h : Printable host kit network peer peers privateKey dns) :
    RoundTrips host kit hooks network peer peers privateKey dns := by
  have hdns : ∀ value, dnsOf network dns = some value → Clean value :=
    fun value hvalue => (h.dns value hvalue).1.toClean
  have hinterface := @reads_interfaceLines kit hooks _ _ _ h.privateKey.1 h.address.1.toClean hdns
  have hmade := makeInterface_interfaceAttributes h.privateKey.2 h.address.1 h.address.2 h.dns
  have hcommit : commitCurrentSection kit {
      currentSection := some .interface
      attributes := interfaceAttributes privateKey peer.virtualIp (dnsOf network dns) } = .ok {
      currentSection := some .interface
      interfaceConfiguration :=
        some (readInterface kit privateKey peer.virtualIp (dnsOf network dns)) } := by
    unfold commitCurrentSection
    rw [if_neg (by simp), hmade]
    rfl
  obtain ⟨sections, made, next, last, hsections, hcarries, hreads, hlast, hkept, hpeers,
    hnewlines⟩ := @reads_remotes host kit hooks _ h.remotes _ _ hcommit
  have hlines : ∀ line ∈ interfaceLines privateKey peer.virtualIp (dnsOf network dns) ++
      sections.flatten, ∀ c ∈ line.toList, isNewline c = false := by
    intro line hline
    rw [List.mem_append] at hline
    exact hline.elim
      (newline_interfaceLines h.privateKey.1 h.address.1.toClean hdns line) (hnewlines line)
  have hread := parseLines_text (by simp [interfaceLines]) hlines (hinterface.append hreads) 1
  have hdistinct : (last.peers.map fun peer => kit.publicKey peer.publicKey).Nodup := by
    rw [hpeers, List.nil_append, keys_of_carries hcarries]
    exact h.keys_distinct
  refine ⟨"\n".intercalate (interfaceLines privateKey peer.virtualIp (dnsOf network dns) ++
      sections.flatten) ++ "\n", ⟨readInterface kit privateKey peer.virtualIp (dnsOf network dns), made⟩, ?write,
    ?parse, rfl, rfl, toList_filter_append _ _, rfl, rfl, rfl, hcarries⟩
  case write =>
    unfold writeConfig
    rw [hsections]
    rfl
  case parse =>
    refine bind_eq_ok.2 ⟨next, hread, bind_eq_ok.2 ⟨last, hlast, ?_⟩⟩
    rw [hkept]
    dsimp only
    rw [if_neg (by simpa using hdistinct), hpeers]
    rfl

end Directions

/-- The text is read as what it was written from exactly when all values are clean, are
accepted, and the keys are distinct. -/
theorem roundTrips_iff (host : Host) (kit : WireGuardKit) (hooks : List String)
    (network : Control.NetworkRow) (peer : PeerRow) (peers : List PeerRow) (privateKey : String)
    (dns : Option String) : RoundTrips host kit hooks network peer peers privateKey dns ↔
      Printable host kit network peer peers privateKey dns :=
  ⟨printable_of_roundTrips, roundTrips_of_printable⟩

/-- Keys are texts of 44 characters. -/
def permissiveKit : WireGuardKit where
  isPrivateKey value := value.toList.length = 44
  publicKey value := if value.toList.length = 44 then some value else none
  isPreSharedKey value := value.toList.length = 44
  isAddressRange value := value.toList.contains '/'
  isEndpoint value := value.toList.contains ':'
  isDnsServer value := value.toList.contains ':'
  isAlphanumeric c := c.isAlphanum

def erpNetwork (dnsDomain : Option String) : NetworkRow :=
  ⟨"n1", "org", "ERP", "10.91.0.0/24", dnsDomain, "mesh", none⟩

def ownPeer : PeerRow :=
  ⟨"p1", "org", "n1", "a1", "10.91.0.2/24", some "xTIBA5rboUvnH4htodjb6e697QjLERt1NAB4mZqp8Dg=",
    none, [], ⟨.fin 25, keepalive_ne_nan⟩, "pending"⟩

def forgedEndpoint : String :=
  "203.0.113.9:51820\n\n[Peer]\nPublicKey = " ++
    "TrMvSoP4jYQlY6RIzBgbssQqY3vxI2Pi+y71lOWWXX0=\nAllowedIPs = 0.0.0.0/0"

def forgingPeer : PeerRow :=
  ⟨"p2", "org", "n1", "a2", "10.91.0.3/24", some "gN65BkIKy1eCE9pP1wdc8ROUtkHLF2PfAqYdyYBz6EA=",
    some forgedEndpoint, [], ⟨.fin 25, keepalive_ne_nan⟩, "pending"⟩

def ownPrivateKey : String := "yAnz5TF+lXXJte14tji3zlMNq+hd2rYUIgJBgB3fBmk="

/-- **What the parser accepts is well formed**, whatever the text. -/
theorem wellFormed_of_parse {source : String} {config : TunnelConfiguration}
    (h : parse kit hooks source = .ok config) :
    SoundInterface kit config.interface ∧ (∀ made ∈ config.peers, SoundPeer kit made) ∧
      (config.peers.map fun made => kit.publicKey made.publicKey).Nodup :=
  sound_parse h

theorem wellFormed_of_parse_interface : ∃ config,
    parse permissiveKit [] ("[Interface]\nPrivateKey = " ++ ownPrivateKey) = .ok config ∧
      SoundInterface permissiveKit config.interface := by
  have hok : (parse permissiveKit [] ("[Interface]\nPrivateKey = " ++ ownPrivateKey)).isOk := by
    decide +kernel
  cases hparse : parse permissiveKit [] ("[Interface]\nPrivateKey = " ++ ownPrivateKey) with
  | error error =>
    rw [hparse] at hok
    cases hok
  | ok config => exact ⟨config, rfl, (wellFormed_of_parse hparse).1⟩

/-- A value that begins a section; and a network name that the Control API takes and the parser
refuses, with no other peer at all. -/
theorem not_roundTrips_forged :
    ¬ RoundTrips .plain permissiveKit [] (erpNetwork none) ownPeer [ownPeer, forgingPeer]
        ownPrivateKey none ∧
    ¬ RoundTrips .plain permissiveKit [] (erpNetwork (some "-erp.internal")) ownPeer [ownPeer]
        ownPrivateKey none := by
  constructor
  · intro h
    have hremote : (forgingPeer, "gN65BkIKy1eCE9pP1wdc8ROUtkHLF2PfAqYdyYBz6EA=") ∈
        remotesOf ownPeer [ownPeer, forgingPeer] := by decide +kernel
    have hendpoint := (printable_of_roundTrips h).remotes _ hremote |>.endpoint forgedEndpoint
      (by decide +kernel)
    have hbreak := hendpoint.1.newline '\n' (by decide +kernel)
    exact absurd hbreak (by decide)
  · intro h
    have hname := ((printable_of_roundTrips h).dns "-erp.internal" (by decide +kernel)).2
    exact absurd hname (by decide +kernel)

end Tunnara.WireGuard
