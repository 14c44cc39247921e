/-
# What a configuration can hold

A value is read from the part of a line behind `=`, so it is clean; an item of a list is read
between commas. So a configuration that says what was given says that what was given is
clean, and accepted.
-/

import Tunnara.WireGuard.Config

namespace Tunnara.WireGuard

open Lines Control

/-- The texts that the attributes hold. -/
def Plain (value : String) : Prop := ∀ c ∈ value.toList, isNewline c = false ∧ c ≠ '#'

variable {value key : String} {attributes : Attributes} {accepts : String → Bool}
  {invalid : String → ParseError} {state next : ParserState}

theorem Plain.clean (h : Plain value) (htight : Tight isSpace value.toList) : Clean value :=
  ⟨fun c hc => (h c hc).1, fun hmem => (h _ hmem).2 rfl, htight⟩

theorem Plain.append {first second : String} (h : Plain first) (h' : Plain second) :
    Plain (first ++ "," ++ second) := by
  intro c hc
  rw [String.toList_append, String.toList_append, List.mem_append, List.mem_append] at hc
  rcases hc with (hc | hc) | hc
  · exact h c hc
  · rw [show ",".toList = [','] from rfl, List.mem_singleton] at hc
    subst hc
    exact ⟨by decide, by decide⟩
  · exact h' c hc

theorem item_of_mem_split {item : String} (h : Plain value)
    (hitem : item ∈ splitCommaSeparated value) : Item item := by
  obtain ⟨text, htext, rfl⟩ := List.mem_map.1 hitem
  obtain ⟨hmem, hne⟩ := List.mem_filter.1 htext
  obtain ⟨piece, hpiece, rfl⟩ := List.mem_map.1 hmem
  have hchars : ∀ c ∈ trim piece, c ∈ value.toList ∧ (c == ',') = false := fun c hc =>
    mem_of_mem_splitOnP hpiece (mem_of_mem_trimmed hc)
  have hplain : Plain (String.ofList (trim piece)) := by
    intro c hc
    rw [String.toList_ofList] at hc
    exact h c (hchars c hc).1
  have htight : Tight isSpace (String.ofList (trim piece)).toList := by
    rw [String.toList_ofList]
    exact tight_trimmed
  refine ⟨hplain.clean htight, ?_, ?_⟩
  · rw [String.toList_ofList]
    intro hcomma
    exact absurd (hchars _ hcomma).2 (by simp)
  · intro hempty
    apply of_decide_eq_true hne
    have hlist := congrArg String.toList hempty
    rwa [String.toList_ofList] at hlist

/-- What an interface holds. -/
structure SoundInterface (kit : WireGuardKit) (made : InterfaceConfiguration) : Prop where
  privateKey : Clean made.privateKey ∧ kit.isPrivateKey made.privateKey = true
  addresses : ∀ item ∈ made.addresses, Item item ∧ kit.isAddressRange item = true
  dns : ∀ item ∈ made.dns ++ made.dnsSearch,
    Item item ∧ (kit.isDnsServer item || isValidSearchDomain kit item) = true

structure SoundPeer (kit : WireGuardKit) (made : PeerConfiguration) : Prop where
  publicKey : Clean made.publicKey ∧ (kit.publicKey made.publicKey).isSome = true
  allowedIPs : ∀ item ∈ made.allowedIPs, Item item ∧ kit.isAddressRange item = true
  endpoint : ∀ value, made.endpoint = some value → Clean value ∧ kit.isEndpoint value = true
  persistentKeepAlive : ∀ n, made.persistentKeepAlive = some n → n ≤ 65535

/-- The values of the keys that come once are tight. -/
def SoundAttributes (attributes : Attributes) : Prop :=
  ∀ key value, attributes.get? key = some value →
    Plain value ∧ (isMultiple key = false → Tight isSpace value.toList)

theorem SoundAttributes.clean (h : SoundAttributes attributes)
    (hvalue : attributes.get? key = some value) (hsingle : isMultiple key = false) : Clean value :=
  (h key value hvalue).1.clean ((h key value hvalue).2 hsingle)

theorem readItems_eq_ok {items read : List String}
    (h : readItems accepts invalid items = .ok read) :
    read = items ∧ ∀ item ∈ items, accepts item = true := by
  induction items generalizing read with
  | nil =>
    cases h
    exact ⟨rfl, fun _ hmem => (nomatch hmem)⟩
  | cons item rest ih =>
    rw [readItems] at h
    split at h
    · rename_i haccepts
      cases hrest : readItems accepts invalid rest with
      | error error =>
        rw [hrest] at h
        cases h
      | ok items =>
        rw [hrest] at h
        cases h
        obtain ⟨rfl, hall⟩ := ih hrest
        exact ⟨rfl, List.forall_mem_cons.2 ⟨haccepts, hall⟩⟩
    · cases h

theorem readList_sound (hattributes : SoundAttributes attributes) {read : List String}
    (h : readList attributes key accepts invalid = .ok read) :
    ∀ item ∈ read, Item item ∧ accepts item = true := by
  unfold readList at h
  cases hvalue : attributes.get? key with
  | none =>
    rw [hvalue] at h
    cases h
    exact fun _ hmem => (nomatch hmem)
  | some value =>
    rw [hvalue] at h
    obtain ⟨rfl, hall⟩ := readItems_eq_ok h
    exact fun item hitem =>
      ⟨item_of_mem_split (hattributes key value hvalue).1 hitem, hall item hitem⟩

theorem readValue_eq_ok {read : Option String}
    (h : readValue attributes key accepts invalid = .ok read) :
    read = attributes.get? key ∧ ∀ value, read = some value → accepts value = true := by
  unfold readValue at h
  cases hvalue : attributes.get? key with
  | none =>
    rw [hvalue] at h
    cases h
    exact ⟨rfl, fun _ hsome => nomatch hsome⟩
  | some value =>
    rw [hvalue] at h
    dsimp only at h
    split at h
    · rename_i haccepts
      cases h
      refine ⟨rfl, ?_⟩
      rintro _ ⟨⟩
      exact haccepts
    · cases h

theorem readUInt16_le {n : ℕ} (h : readUInt16 value = some n) : n ≤ 65535 := by
  unfold readUInt16 at h
  split at h
  · exact of_decide_eq_true (Option.filter_eq_some_iff.1 h).2
  · have hzero := of_decide_eq_true (Option.filter_eq_some_iff.1 h).2
    omega
  · exact of_decide_eq_true (Option.filter_eq_some_iff.1 h).2

theorem readNumber_le {read : Option ℕ} (h : readNumber attributes key invalid = .ok read) :
    ∀ n, read = some n → n ≤ 65535 := by
  unfold readNumber at h
  split at h
  · cases h
    exact fun _ hsome => nomatch hsome
  · split at h
    · cases h
    · rename_i hread
      cases h
      rintro _ ⟨⟩
      exact readUInt16_le hread

variable {kit : WireGuardKit} {hooks : List String}

theorem sound_makeInterface (hattributes : SoundAttributes attributes)
    {made : InterfaceConfiguration} (h : makeInterface kit attributes = .ok made) :
    SoundInterface kit made := by
  unfold makeInterface at h
  cases hkey : attributes.get? "privatekey" with
  | none =>
    rw [hkey] at h
    cases h
  | some privateKey =>
    rw [hkey] at h
    dsimp only at h
    split at h
    · cases h
    · rename_i haccepted
      obtain ⟨listenPort, -, h⟩ := bind_eq_ok.1 h
      obtain ⟨addresses, haddresses, h⟩ := bind_eq_ok.1 h
      obtain ⟨names, hnames, h⟩ := bind_eq_ok.1 h
      obtain ⟨mtu, -, h⟩ := bind_eq_ok.1 h
      cases h
      constructor
      case privateKey =>
        exact ⟨hattributes.clean hkey (by decide), by simpa using haccepted⟩
      case addresses => exact readList_sound hattributes haddresses
      case dns =>
        intro item hitem
        apply readList_sound hattributes hnames item
        rcases List.mem_append.1 hitem with hitem | hitem
        · exact List.mem_of_mem_filter hitem
        · exact List.mem_of_mem_filter hitem

theorem sound_makePeer (hattributes : SoundAttributes attributes) {made : PeerConfiguration}
    (h : makePeer kit attributes = .ok made) : SoundPeer kit made := by
  unfold makePeer at h
  cases hkey : attributes.get? "publickey" with
  | none =>
    rw [hkey] at h
    cases h
  | some publicKey =>
    rw [hkey] at h
    dsimp only at h
    split at h
    · cases h
    · rename_i haccepted
      obtain ⟨preSharedKey, -, h⟩ := bind_eq_ok.1 h
      obtain ⟨allowedIPs, hallowedIPs, h⟩ := bind_eq_ok.1 h
      obtain ⟨endpoint, hendpoint, h⟩ := bind_eq_ok.1 h
      obtain ⟨keepAlive, hkeepAlive, h⟩ := bind_eq_ok.1 h
      cases h
      constructor
      case publicKey =>
        refine ⟨hattributes.clean hkey (by decide), ?_⟩
        rw [Option.isSome_iff_ne_none]
        exact fun hnone => haccepted (by rw [hnone]; rfl)
      case allowedIPs => exact readList_sound hattributes hallowedIPs
      case endpoint =>
        intro value hvalue
        obtain ⟨hread, haccepts⟩ := readValue_eq_ok hendpoint
        exact ⟨hattributes.clean (hread ▸ hvalue) (by decide), haccepts value hvalue⟩
      case persistentKeepAlive => exact readNumber_le hkeepAlive

structure SoundState (kit : WireGuardKit) (state : ParserState) : Prop where
  attributes : SoundAttributes state.attributes
  interface : ∀ made, state.interfaceConfiguration = some made → SoundInterface kit made
  peers : ∀ made ∈ state.peers, SoundPeer kit made

theorem soundAttributes_empty : SoundAttributes .empty := fun _ _ h => nomatch h

section

variable (hstate : SoundState kit state)
include hstate

theorem sound_commitCurrentSection (h : commitCurrentSection kit state = .ok next) :
    SoundState kit next := by
  unfold commitCurrentSection at h
  split at h
  · cases h
    exact { hstate with attributes := soundAttributes_empty }
  · split at h
    · cases h
    · obtain ⟨made, hmade, h⟩ := bind_eq_ok.1 h
      cases h
      refine { hstate with attributes := soundAttributes_empty, interface := ?_ }
      rintro _ ⟨⟩
      exact sound_makeInterface hstate.attributes hmade
  · obtain ⟨made, hmade, h⟩ := bind_eq_ok.1 h
    cases h
    refine { hstate with attributes := soundAttributes_empty, peers := ?_ }
    intro peer hpeer
    rcases List.mem_append.1 hpeer with hpeer | hpeer
    · exact hstate.peers peer hpeer
    · rw [List.mem_singleton.1 hpeer]
      exact sound_makePeer hstate.attributes hmade

theorem sound_putAttribute {current : Section} {keyWithCase value : List Char}
    (hplain : Plain (String.ofList value)) (htight : Tight isSpace value)
    (h : putAttribute hooks current keyWithCase value state = .ok next) : SoundState kit next := by
  unfold putAttribute at h
  dsimp only at h
  split at h
  · cases hprevious : state.attributes.get? (lowercased keyWithCase) with
    | none =>
      rw [hprevious] at h
      cases h
      refine { hstate with attributes := ?_ }
      intro key stored hstored
      rw [OrdMap.get?_set] at hstored
      split at hstored
      · cases hstored
        exact ⟨hplain, fun _ => by rw [String.toList_ofList]; exact htight⟩
      · exact hstate.attributes key stored hstored
    | some previousValue =>
      rw [hprevious] at h
      dsimp only at h
      split at h
      · rename_i hmultiple
        cases h
        refine { hstate with attributes := ?_ }
        intro key stored hstored
        rw [OrdMap.get?_set] at hstored
        split at hstored
        · rename_i hkey
          cases hstored
          refine ⟨(hstate.attributes _ _ hprevious).1.append hplain, fun hsingle => ?_⟩
          rw [hkey, hmultiple] at hsingle
          cases hsingle
        · exact hstate.attributes key stored hstored
      · cases h
  · cases h

omit hstate in
theorem mem_of_mem_withoutComment {rawLine : List Char} {c : Char}
    (h : c ∈ withoutComment rawLine) : c ∈ rawLine ∧ c ≠ '#' := by
  unfold withoutComment at h
  cases hcut : cut '#' rawLine with
  | none =>
    rw [hcut] at h
    refine ⟨h, ?_⟩
    rintro rfl
    exact cut_eq_none_iff.1 hcut h
  | some parts =>
    rw [hcut] at h
    obtain ⟨heq, hnot⟩ := eq_of_cut hcut
    refine ⟨?_, fun hsame => hnot (hsame ▸ h)⟩
    rw [heq]
    exact List.mem_append_left _ h

theorem sound_parseLine {lineNumber : ℕ} {rawLine : List Char}
    (hline : ∀ c ∈ rawLine, isNewline c = false)
    (h : parseLine kit hooks lineNumber rawLine state = .ok next) : SoundState kit next := by
  unfold parseLine at h
  dsimp only at h
  split_ifs at h with hempty hinterface hpeer
  · cases h
    exact hstate
  · obtain ⟨committed, hcommitted, h⟩ := bind_eq_ok.1 h
    cases h
    have hsound := sound_commitCurrentSection hstate hcommitted
    exact ⟨hsound.attributes, hsound.interface, hsound.peers⟩
  · obtain ⟨committed, hcommitted, h⟩ := bind_eq_ok.1 h
    cases h
    have hsound := sound_commitCurrentSection hstate hcommitted
    exact ⟨hsound.attributes, hsound.interface, hsound.peers⟩
  · split at h
    · cases h
    · split at h
      · cases h
      · rename_i parts hcut
        refine sound_putAttribute hstate ?_ tight_trimmed h
        intro c hc
        rw [String.toList_ofList] at hc
        have hvalue := mem_of_mem_trimmed hc
        have hpart : c ∈ trim (withoutComment rawLine) := by
          rw [(eq_of_cut hcut).1]
          exact List.mem_append_right _ (List.mem_cons_of_mem _ hvalue)
        have hraw := mem_of_mem_withoutComment (mem_of_mem_trimmed hpart)
        exact ⟨hline c hraw.1, hraw.2⟩

theorem sound_parseLines {lines : List (List Char)} {lineNumber : ℕ}
    (hlines : ∀ line ∈ lines, ∀ c ∈ line, isNewline c = false)
    (h : parseLines kit hooks lineNumber lines state = .ok next) : SoundState kit next := by
  induction lines generalizing lineNumber state with
  | nil =>
    cases h
    exact hstate
  | cons line lines ih =>
    obtain ⟨middle, hmiddle, h⟩ := bind_eq_ok.1 h
    have hsound := sound_parseLine hstate (hlines line List.mem_cons_self) hmiddle
    exact ih hsound (fun other hother => hlines other (List.mem_cons_of_mem line hother)) h

end

theorem sound_parse {source : String} {config : TunnelConfiguration}
    (h : parse kit hooks source = .ok config) :
    SoundInterface kit config.interface ∧ (∀ made ∈ config.peers, SoundPeer kit made) ∧
      (config.peers.map fun made => kit.publicKey made.publicKey).Nodup := by
  obtain ⟨read, hread, h⟩ := bind_eq_ok.1 h
  obtain ⟨committed, hcommitted, h⟩ := bind_eq_ok.1 h
  have hstart : SoundState kit {} :=
    ⟨soundAttributes_empty, fun _ hsome => (nomatch hsome), fun _ hmem => (nomatch hmem)⟩
  have hsound := sound_commitCurrentSection (sound_parseLines hstart
    (fun line hline c hc => (mem_of_mem_splitOnP hline hc).2) hread) hcommitted
  cases hinterface : committed.interfaceConfiguration with
  | none =>
    rw [hinterface] at h
    cases h
  | some made =>
    rw [hinterface] at h
    dsimp only at h
    split at h
    · cases h
    · rename_i hdistinct
      cases h
      exact ⟨hsound.interface made hinterface, hsound.peers, by simpa using hdistinct⟩

end Tunnara.WireGuard
