/-
# Normalising a stored document again

A second pass over a stored document changes nothing but an empty name: it gets the default of
its position. The salts that it draws make no difference, since it finds no password to hash.
With what a stored document shows, this decides when a document is stored without its secrets and
for good.
-/

import Tunnara.Policy.Secrets

namespace Tunnara.Policy

/-- The case mappings of JavaScript change nothing in a text that they have been applied to. -/
structure MappedTexts (host : Host) : Prop where
  upper : ∀ s, host.toUpperCase (host.toUpperCase s) = host.toUpperCase s
  lower : ∀ n s, host.toLowerCase (sliceTo n (host.toLowerCase s)) = sliceTo n (host.toLowerCase s)

/-- The host when `hashPolicySecret` draws other salts. -/
def redrawn (host : Host) (draw : String → String) : Host := { host with hashPolicySecret := draw }

variable {host : Host} {draw : String → String}

/-! ## Other salts -/

mutual

theorem toJsString_redrawn : ∀ v : Json, v.toJsString (redrawn host draw) = v.toJsString host
  | .null | .bool _ | .num _ | .str _ => rfl
  | .arr items => by rw [Json.toJsString, Json.toJsString, joinItems_redrawn items]
  | .obj fields => by rw [Json.toJsString, Json.toJsString]

theorem joinItems_redrawn :
    ∀ items, Json.joinItems (redrawn host draw) items = Json.joinItems host items
  | [] => rfl
  | .null :: rest => by rw [Json.joinItems, Json.joinItems, joinItems_redrawn rest]
  | .bool _ :: rest | .num _ :: rest | .str _ :: rest | .arr _ :: rest | .obj _ :: rest => by
      rw [Json.joinItems, Json.joinItems, toJsString_redrawn, joinItems_redrawn rest] <;>
        exact nofun

end

theorem mapStrings_redrawn (f : String → String) (items : List Json) :
    mapStrings (redrawn host draw) f items = mapStrings host f items := by
  induction items with
  | nil => rfl
  | cons item rest ih => rw [mapStrings, mapStrings, toJsString_redrawn, ih]

theorem normalizeMatch_redrawn {raw : List (String × Json)} :
    normalizeMatch (redrawn host draw) raw = normalizeMatch host raw := by
  unfold normalizeMatch
  rw [mapStrings_redrawn, mapStrings_redrawn]
  rfl

variable {action : List (String × Json)}

theorem storedType_redrawn : storedType (redrawn host draw) action = storedType host action := by
  unfold storedType stringOf
  split
  · rfl
  · rw [toJsString_redrawn]
    rfl

/-! ## Texts -/

theorem units_takeUnits (n : ℕ) (chars : List Char) :
    ((takeUnits n chars).map fun c => if c.val < 0x10000 then 1 else 2).sum ≤ n := by
  induction chars generalizing n with
  | nil => cases n <;> exact Nat.zero_le _
  | cons c rest ih =>
    unfold takeUnits
    by_cases hfits : (if c.val < 0x10000 then 1 else 2) ≤ n
    · rw [if_pos hfits, List.map_cons, List.sum_cons]
      have := ih (n - if c.val < 0x10000 then 1 else 2)
      omega
    · rw [if_neg hfits]
      exact Nat.zero_le _

theorem sliceTo_sliceTo (n : ℕ) (s : String) : sliceTo n (sliceTo n s) = sliceTo n s := by
  unfold sliceTo
  rw [String.toList_ofList, takeUnits_of_le (units_takeUnits n _)]

theorem sliceTo_eq_empty {n : ℕ} (hn : 2 ≤ n) {s : String} : sliceTo n s = "" ↔ s = "" := by
  constructor
  · intro h
    have htake : takeUnits n s.toList = [] := by
      have := congrArg String.toList h
      rwa [sliceTo, String.toList_ofList] at this
    cases hs : s.toList with
    | nil => exact String.toList_eq_nil_iff.1 hs
    | cons c rest =>
      have hunits : (if c.val < 0x10000 then 1 else 2) ≤ n := by split <;> omega
      rw [hs, takeUnits, if_pos hunits] at htake
      cases htake
  · rintro rfl
    cases n <;> rfl

variable {f : String → String} {name : String} {fields : List (String × Json)} {stored : Json}
  {index : ℕ}

theorem mapStrings_again (hf : ∀ s, f (f s) = f s) {items out : List Json}
    (h : mapStrings host f items = .ok out) : mapStrings host f out = .ok out := by
  induction items generalizing out with
  | nil =>
    cases h
    rfl
  | cons item rest ih =>
    obtain ⟨text, -, h⟩ := bind_eq_ok.1 h
    obtain ⟨later, hlater, h⟩ := bind_eq_ok.1 h
    cases h
    refine bind_eq_ok.2 ⟨f text, rfl, bind_eq_ok.2 ⟨later, ih hlater, ?_⟩⟩
    rw [hf]
    rfl

theorem mapStrings_length {items out : List Json} (h : mapStrings host f items = .ok out) :
    out.length = items.length := by
  induction items generalizing out with
  | nil =>
    cases h
    rfl
  | cons item rest ih =>
    obtain ⟨text, -, h⟩ := bind_eq_ok.1 h
    obtain ⟨later, hlater, h⟩ := bind_eq_ok.1 h
    cases h
    rw [List.length_cons, List.length_cons, ih hlater]

theorem stringField_textField {v : Option Json} (hf : ∀ s, f (f s) = f s) :
    stringField name (textField v f) f = stringField name v f := by
  rcases v with _ | (_ | _ | _ | s | _ | _) <;> simp [stringField, textField, hf]

/-! ## Rules -/

theorem normalizeMatch_again (htexts : MappedTexts host) {raw : List (String × Json)}
    {criteria : Json} (h : normalizeMatch host raw = .ok criteria) :
    normalizeMatch host (object (some criteria)) = .ok criteria := by
  obtain ⟨methods, cidrs, hmethods, hcidrs, hgetMethods, hgetPrefix, hgetRegex, hgetHost, hgetCidrs,
    hgetHeaders⟩ := normalizeMatch_eq_ok h
  unfold normalizeMatch at h
  rw [hmethods, hcidrs] at h
  have hcriteria := Except.ok.inj h
  have hkeptMethods : (list (some (.arr methods))).take 32 = methods :=
    List.take_of_length_le ((mapStrings_length hmethods).trans_le (List.length_take_le _ _))
  have hkeptCidrs : (list (some (.arr cidrs))).take 256 = cidrs :=
    List.take_of_length_le ((mapStrings_length hcidrs).trans_le (List.length_take_le _ _))
  cases criteria with
  | obj fields =>
    have hread : object (some (Json.obj fields)) = fields := rfl
    have hlookup : ∀ name, Json.lookup fields name = (Json.obj fields).get? name := fun _ => rfl
    unfold normalizeMatch
    rw [hread, hlookup, hlookup, hlookup, hlookup, hlookup, hlookup, hgetMethods, hgetPrefix,
      hgetRegex, hgetHost, hgetCidrs, hgetHeaders, hkeptMethods, hkeptCidrs,
      mapStrings_again htexts.upper hmethods, mapStrings_again (f := id) (fun _ => rfl) hcidrs,
      stringField_textField (sliceTo_sliceTo 4096), stringField_textField (sliceTo_sliceTo 512),
      stringField_textField fun s => by rw [htexts.lower, sliceTo_sliceTo], ← hcriteria]
    rfl
  | _ => cases hgetMethods

theorem lookup_filter_ne {other : String} (hne : other ≠ name) :
    Json.lookup (fields.filter fun f => f.1 ≠ name) other = Json.lookup fields other := by
  unfold Json.lookup
  rw [List.find?_filter]
  congr 2
  funext f
  by_cases hname : f.1 = other
  · simp [hname, hne]
  · simp [hname]

theorem lookup_filter_self : Json.lookup (fields.filter fun f => f.1 ≠ name) name = none := by
  unfold Json.lookup
  rw [List.find?_filter, Option.map_eq_none_iff, List.find?_eq_none]
  intro f _
  simp

theorem setField_setField (fields : List (String × Json)) (name : String) (value : Json) :
    Json.setField (Json.setField fields name value) name value =
      Json.setField fields name value := by
  have hset : (Json.setField fields name value).any (fun f => f.1 = name) = true := by
    unfold Json.setField
    split_ifs with hany
    · obtain ⟨f, hf, hname⟩ := List.any_eq_true.1 hany
      exact List.any_eq_true.2 ⟨(name, value), List.mem_map.2 ⟨f, hf,
        if_pos (of_decide_eq_true hname)⟩, decide_eq_true rfl⟩
    · simp
  have hsame : ∀ f ∈ Json.setField fields name value, f.1 = name → (name, value) = f := by
    intro f hf hname
    unfold Json.setField at hf
    split_ifs at hf with hany
    · obtain ⟨g, -, rfl⟩ := List.mem_map.1 hf
      split_ifs at hname ⊢ with hset
      · rfl
      · exact absurd hname hset
    · rcases List.mem_append.1 hf with hold | hnew
      · exact absurd (List.any_eq_true.2 ⟨f, hold, decide_eq_true hname⟩) hany
      · exact (List.mem_singleton.1 hnew).symm
  rw [Json.setField, if_pos hset]
  conv_rhs => rw [← List.map_id (Json.setField fields name value)]
  refine List.map_congr_left fun f hf => ?_
  by_cases hname : f.1 = name
  · rw [if_pos hname]
    exact hsame f hf hname
  · rw [if_neg hname]
    rfl

theorem normalizeAccount_again {account : Json} (h : normalizeAccount host account = .ok stored) :
    normalizeAccount (redrawn host draw) stored = .ok stored := by
  obtain ⟨username, hash, -, rfl, hhash⟩ := normalizeAccount_eq_ok h
  have hname : (orDefault (some (.str username)) (.str "")).toJsString (redrawn host draw) =
      .ok username := by
    by_cases hblank : username = ""
    · simp [orDefault, Json.truthy, hblank, Json.toJsString]
    · simp [orDefault, Json.truthy, hblank, Json.toJsString]
  have hkept : hash.truthy = true ∨ hash = .str "" := by
    rcases hhash with ⟨hgiven, hread⟩ | ⟨-, -, text, -, -, -, rfl⟩ | ⟨-, -, rfl⟩
    · rw [hread] at hgiven
      exact .inl hgiven
    · by_cases hblank : host.hashPolicySecret text = ""
      · exact .inr (by rw [hblank])
      · exact .inl (by simp [Json.truthy, hblank])
    · exact .inr rfl
  refine bind_eq_ok.2 ⟨_, rfl, bind_eq_ok.2 ⟨username, hname, bind_eq_ok.2 ⟨_, rfl,
    bind_eq_ok.2 ⟨_, rfl, ?_⟩⟩⟩⟩
  rcases hkept with htruthy | rfl
  · exact if_pos htruthy
  · rfl

theorem normalizeAccounts_again {accounts stored : List Json}
    (h : normalizeAccounts host accounts = .ok stored) :
    normalizeAccounts (redrawn host draw) stored = .ok stored := by
  induction accounts generalizing stored with
  | nil =>
    cases h
    rfl
  | cons account rest ih =>
    obtain ⟨first, hfirst, h⟩ := bind_eq_ok.1 h
    obtain ⟨later, hlater, h⟩ := bind_eq_ok.1 h
    cases h
    exact bind_eq_ok.2 ⟨first, normalizeAccount_again hfirst, bind_eq_ok.2 ⟨later, ih hlater, rfl⟩⟩

theorem normalizeAction_plain {type : String} (htype : storedType host action = .ok type)
    (haccounts : ∀ accounts, ¬ ReplacesAccounts host action accounts)
    (hkeys : ∀ keys, ¬ ReplacesKeys host action keys) :
    normalizeAction host action = .ok action := by
  have hkeyed : normalizeAction.apiKeys host action type (Json.lookup action "keys") =
      .ok action := by
    unfold normalizeAction.apiKeys
    split
    · next keys hread =>
      rw [if_neg fun hapi => hkeys keys ⟨by rw [htype, hapi], hread⟩]
      rfl
    · rfl
  refine bind_eq_ok.2 ⟨type, htype, ?_⟩
  split
  · next accounts hread =>
    rw [if_neg fun hbasic => haccounts accounts ⟨by rw [htype, hbasic], hread⟩]
    exact hkeyed
  · exact hkeyed

theorem normalizeAction_again (h : normalizeAction host action = .ok fields) :
    normalizeAction (redrawn host draw) fields = .ok fields := by
  rcases normalizeAction_cases h with ⟨accounts, stored, hreplaces, hstored, rfl⟩ |
    ⟨keys, hashes, digests, hreplaces, -, -, rfl⟩ | ⟨haccounts, hkeys, rfl⟩
  · have htype : Json.lookup (Json.setField action "accounts" (.arr stored)) "type" =
        Json.lookup action "type" := by
      rw [Json.lookup_setField]
      rfl
    have hread : Json.lookup (Json.setField action "accounts" (.arr stored)) "accounts" =
        some (.arr stored) := by
      rw [Json.lookup_setField]
      rfl
    have hbasic : storedType (redrawn host draw)
        (Json.setField action "accounts" (.arr stored)) = .ok "basic_auth" := by
      rw [storedType_redrawn, storedType, htype]
      exact hreplaces.1
    refine bind_eq_ok.2 ⟨"basic_auth", hbasic, ?_⟩
    rw [hread]
    refine bind_eq_ok.2 ⟨stored, normalizeAccounts_again hstored, ?_⟩
    rw [setField_setField]
    rfl
  · generalize hdropped : (Json.setField action "hashes"
      (.arr (dedup (hashes ++ digests)))).filter (fun f => f.1 ≠ "keys") = fields
    have htype : Json.lookup fields "type" = Json.lookup action "type" := by
      rw [← hdropped, lookup_filter_ne (by decide), Json.lookup_setField]
      rfl
    have hnokeys : Json.lookup fields "keys" = none := by
      rw [← hdropped, lookup_filter_self]
    have hstored : storedType (redrawn host draw) fields = .ok "api_key" := by
      rw [storedType_redrawn, storedType, htype]
      exact hreplaces.1
    refine normalizeAction_plain hstored (fun accounts haccounts => ?_) fun keys hkeys => ?_
    · exact absurd (Except.ok.inj (haccounts.1.symm.trans hstored)) (by decide)
    · exact absurd (hkeys.2.symm.trans hnokeys) nofun
  · obtain ⟨type, htype, -⟩ := bind_eq_ok.1 h
    refine normalizeAction_plain (storedType_redrawn.trans htype)
      (fun accounts hreplaces => ?_) fun keys hreplaces => ?_
    · exact haccounts accounts ⟨storedType_redrawn.symm.trans hreplaces.1, hreplaces.2⟩
    · exact hkeys keys ⟨storedType_redrawn.symm.trans hreplaces.1, hreplaces.2⟩

theorem normalizeActions_again {actions : List (List (String × Json))} {stored : List Json}
    (h : normalizeActions host (actions.map Json.obj) = .ok stored) :
    normalizeActions (redrawn host draw) stored = .ok stored ∧
      stored.map (fun action => .obj (object (some action))) = stored := by
  induction actions generalizing stored with
  | nil =>
    cases h
    exact ⟨rfl, rfl⟩
  | cons action rest ih =>
    obtain ⟨fields, hfields, h⟩ := bind_eq_ok.1 h
    obtain ⟨later, hlater, h⟩ := bind_eq_ok.1 h
    cases h
    obtain ⟨hagain, hmap⟩ := ih hlater
    have hfirst : normalizeAction host action = .ok fields := hfields
    refine ⟨bind_eq_ok.2 ⟨fields, normalizeAction_again hfirst,
      bind_eq_ok.2 ⟨later, hagain, rfl⟩⟩, ?_⟩
    rw [List.map_cons, hmap]
    rfl

theorem normalizeActions_length {actions stored : List Json}
    (h : normalizeActions host actions = .ok stored) : stored.length = actions.length := by
  induction actions generalizing stored with
  | nil =>
    cases h
    rfl
  | cons action rest ih =>
    obtain ⟨fields, -, h⟩ := bind_eq_ok.1 h
    obtain ⟨later, hlater, h⟩ := bind_eq_ok.1 h
    cases h
    rw [List.length_cons, List.length_cons, ih hlater]

/-- A text under a key of a rule that is truthy and converts to nothing, such as `[]`. -/
def EmptyText (host : Host) (raw : Json) (key : String) : Prop :=
  ∃ v, Json.lookup (object (some raw)) key = some v ∧ v.truthy = true ∧ v.toJsString host = .ok ""

theorem ruleText_eq_empty {raw : Json} {key default : String} (hdefault : default ≠ "") :
    ruleText host raw key default = .ok "" ↔ EmptyText host raw key := by
  unfold ruleText EmptyText
  have hnot : ¬ (Json.str default).toJsString host = .ok "" := fun h => hdefault (Except.ok.inj h)
  cases hread : Json.lookup (object (some raw)) key with
  | none => exact iff_of_false hnot (by rintro ⟨v, hv, -⟩; cases hv)
  | some v =>
    have hvalue : orDefault (some v) (.str default) = if v.truthy then v else .str default := rfl
    rw [hvalue]
    cases htruthy : v.truthy with
    | true =>
      rw [if_pos rfl]
      constructor
      · exact fun h => ⟨v, rfl, htruthy, h⟩
      · rintro ⟨w, ⟨⟩, -, h⟩
        exact h
    | false =>
      rw [if_neg nofun]
      refine iff_of_false hnot ?_
      rintro ⟨w, ⟨⟩, hother, -⟩
      rw [htruthy] at hother
      cases hother

theorem ruleText_stored {key default text : String}
    (hread : Json.lookup (object (some stored)) key = some (.str text)) :
    ruleText host stored key default = .ok (if text = "" then default else text) := by
  unfold ruleText
  rw [hread]
  by_cases hblank : text = ""
  · simp [orDefault, Json.truthy, hblank, Json.toJsString]
  · simp [orDefault, Json.truthy, hblank, Json.toJsString]

theorem append_ne_empty {first second : String} (h : first ≠ "") : first ++ second ≠ "" := by
  intro heq
  have hlist := congrArg String.toList heq
  rw [String.toList_append, String.toList_empty, List.append_eq_nil_iff] at hlist
  exact h (String.toList_eq_nil_iff.1 hlist.1)

/-- The names of a submitted rule are not empty. -/
def Named (host : Host) (raw : Json) : Prop :=
  ¬ EmptyText host raw "id" ∧ ¬ EmptyText host raw "name"

theorem storedRule_again (htexts : MappedTexts host) {raw : Json}
    (h : StoredRule host index raw stored) :
    StoredRule (redrawn host draw) index stored stored ↔ Named host raw := by
  obtain ⟨id, name, criteria, actions, hid, hname, hcriteria, hactions, rfl⟩ := h.parts
  generalize notFalse (Json.lookup (object (some raw)) "enabled") = enabled
  generalize notFalse (Json.lookup (object (some raw)) "stop") = stop
  have hdefaultId : s!"rule-{index + 1}" ≠ "" := append_ne_empty (by decide)
  have hdefaultName : s!"Regra {index + 1}" ≠ "" := append_ne_empty (by decide)
  have hnamed : Named host raw ↔ id ≠ "" ∧ name ≠ "" := by
    unfold Named
    rw [← ruleText_eq_empty hdefaultId, ← ruleText_eq_empty hdefaultName, hid, hname]
    simp
  rw [hnamed]
  have hsliceId : sliceTo 160 id = "" ↔ id = "" := sliceTo_eq_empty (by decide)
  have hsliceName : sliceTo 240 name = "" ↔ name = "" := sliceTo_eq_empty (by decide)
  have hidStored : ruleText (redrawn host draw) (ruleOf (sliceTo 160 id) (sliceTo 240 name)
      enabled stop criteria actions) "id" s!"rule-{index + 1}" =
        .ok (if sliceTo 160 id = "" then s!"rule-{index + 1}"
        else sliceTo 160 id) := ruleText_stored rfl
  have hnameStored : ruleText (redrawn host draw) (ruleOf (sliceTo 160 id) (sliceTo 240 name)
      enabled stop criteria actions) "name" s!"Regra {index + 1}" =
        .ok (if sliceTo 240 name = "" then s!"Regra {index + 1}"
        else sliceTo 240 name) := ruleText_stored rfl
  constructor
  · intro hagain
    obtain ⟨id', name', criteria', actions', hid', hname', -, -, heq⟩ := hagain.parts
    cases hidStored.symm.trans hid'
    cases hnameStored.symm.trans hname'
    simp only [ruleOf, Json.obj.injEq, List.cons.injEq, Prod.mk.injEq, Json.str.injEq, true_and]
      at heq
    obtain ⟨heqId, heqName, -⟩ := heq
    constructor
    · intro hblank
      rw [if_pos (hsliceId.2 hblank), hsliceId.2 hblank] at heqId
      exact hdefaultId ((sliceTo_eq_empty (by decide)).1 heqId.symm)
    · intro hblank
      rw [if_pos (hsliceName.2 hblank), hsliceName.2 hblank] at heqName
      exact hdefaultName ((sliceTo_eq_empty (by decide)).1 heqName.symm)
  · rintro ⟨hidSome, hnameSome⟩
    rw [if_neg (mt hsliceId.1 hidSome)] at hidStored
    rw [if_neg (mt hsliceName.1 hnameSome)] at hnameStored
    rw [keptActions_eq] at hactions
    obtain ⟨hagain, hmap⟩ := normalizeActions_again hactions
    refine ⟨_, _, criteria, actions, hidStored, hnameStored,
      normalizeMatch_redrawn.trans (normalizeMatch_again htexts hcriteria), ?_, ?_⟩
    · have hlength : actions.length ≤ 100 := by
        rw [normalizeActions_length hactions, List.length_map]
        exact List.length_take_le _ _
      have hkept : keptActions (ruleOf (sliceTo 160 id) (sliceTo 240 name)
          enabled stop criteria actions) = actions := by
        have hread : keptActions (ruleOf (sliceTo 160 id) (sliceTo 240 name)
            enabled stop criteria actions) =
            (actions.take 100).map fun action => .obj (object (some action)) := rfl
        rw [hread, List.take_of_length_le hlength, hmap]
      rw [hkept]
      exact hagain
    · rw [sliceTo_sliceTo, sliceTo_sliceTo]
      have henabled : notFalse (Json.lookup (object (some (ruleOf (sliceTo 160 id)
          (sliceTo 240 name) enabled stop criteria actions))) "enabled") = enabled :=
        notFalse_bool enabled
      have hstop : notFalse (Json.lookup (object (some (ruleOf (sliceTo 160 id)
          (sliceTo 240 name) enabled stop criteria actions))) "stop") = stop :=
        notFalse_bool stop
      rw [henabled, hstop]

theorem storedRules_length {raws rules : List Json} (h : StoredRules host index raws rules) :
    rules.length = raws.length := by
  induction h with
  | nil => rfl
  | cons hrule hrest ih => rw [List.length_cons, List.length_cons, ih]

theorem storedRules_again (htexts : MappedTexts host) {raws rules : List Json}
    (h : StoredRules host index raws rules) :
    StoredRules (redrawn host draw) index rules rules ↔ ∀ raw ∈ raws, Named host raw := by
  induction h with
  | nil => exact iff_of_true .nil (by simp)
  | cons hrule hrest ih =>
    rw [List.forall_mem_cons, ← ih, ← storedRule_again htexts hrule]
    constructor
    · rintro (_ | ⟨hfirst, hlater⟩)
      exact ⟨hfirst, hlater⟩
    · exact fun hboth => .cons hboth.1 hboth.2

/-! ## Documents -/

/-- The rules of a document within the limit. -/
def keptRules (document : Option Json) : List Json :=
  (list (Json.lookup (object document) "rules")).take 200

theorem normalizePolicyInput_again (htexts : MappedTexts host) {document : Option Json}
    (h : normalizePolicyInput host document = .ok stored) :
    normalizePolicyInput (redrawn host draw) (some stored) = .ok stored ↔
      ∀ raw ∈ keptRules document, Named host raw := by
  obtain ⟨rules, hrules, rfl⟩ := normalizePolicyInput_eq_ok.1 h
  generalize notFalse (Json.lookup (object document) "enabled") = enabled
  have hlength : rules.length ≤ 200 :=
    (storedRules_length hrules).trans_le (List.length_take_le _ _)
  have hkept : (list (Json.lookup (object (some (documentOf (effectOf (object document)) enabled
      rules))) "rules")).take 200 = rules := List.take_of_length_le hlength
  have henabled : notFalse (Json.lookup (object (some (documentOf (effectOf (object document))
      enabled rules))) "enabled") = enabled := notFalse_bool enabled
  have heffect : effectOf (object (some (documentOf (effectOf (object document)) enabled rules))) =
      effectOf (object document) := by
    rcases effectOf_cases (object document) with hdeny | hallow
    · rw [hdeny]
      rfl
    · rw [hallow]
      rfl
  unfold keptRules
  rw [← storedRules_again htexts hrules, normalizePolicyInput_eq_ok, hkept, henabled, heffect]
  constructor
  · rintro ⟨again, hagain, heq⟩
    simp only [documentOf, Json.obj.injEq, List.cons.injEq, Prod.mk.injEq, Json.arr.injEq,
      true_and, and_true] at heq
    rw [← heq] at hagain
    exact hagain
  · exact fun hagain => ⟨rules, hagain, rfl⟩

/-- The secrets of a document are all replaced, and nothing else shows one of them. -/
structure Sealed (host : Host) (document : Option Json) : Prop where
  /-- An action that is kept and has secrets has them in a list, under a plain type. -/
  replaced : ∀ raw ∈ keptRules document, ∀ action ∈ (actionsOf raw).take 100,
    secretsOfAction host action ≠ [] →
      (∃ accounts, ReplacesAccounts host action accounts) ∨ ∃ keys, ReplacesKeys host action keys
  /-- No secret is also a text or number that is kept. -/
  apart : ∀ secret ∈ secretsOf host document, ¬ Shows host document secret

/-- A document is stored without its secrets, and normalising it again changes nothing, whichever
salts are drawn. -/
structure StoredForGood (host : Host) (document : Option Json) (stored : Json) : Prop where
  hidden : ∀ secret ∈ secretsOf host document, secret ∉ stored.leaves
  stable : ∀ draw, normalizePolicyInput (redrawn host draw) (some stored) = .ok stored

theorem sealed_iff {document : Option Json} (h : normalizePolicyInput host document = .ok stored) :
    (∀ secret ∈ secretsOf host document, secret ∉ stored.leaves) ↔ Sealed host document := by
  constructor
  · intro hhidden
    have hapart : ∀ secret ∈ secretsOf host document, ¬ Shows host document secret :=
      fun secret hmem hshows => hhidden secret hmem ((mem_leaves_stored h).2 hshows)
    refine ⟨fun raw hraw action haction hsome => ?_, hapart⟩
    by_contra hnone
    push Not at hnone
    obtain ⟨secret, hsecret⟩ := List.exists_mem_of_ne_nil _ hsome
    obtain ⟨index, hget⟩ := List.mem_iff_getElem?.1 hraw
    refine hapart secret (List.mem_flatMap.2 ⟨raw, List.mem_of_mem_take hraw,
      List.mem_flatMap.2 ⟨action, List.mem_of_mem_take haction, hsecret⟩⟩) ?_
    exact .rule hget (.action haction (.plain hnone.1 hnone.2 (mem_fieldLeaves_of_secret hsecret)))
  · exact fun hsealed secret hmem hleaf => hsealed.apart secret hmem ((mem_leaves_stored h).1 hleaf)

/-- **A document is stored without its secrets and for good** exactly if its secrets are all
replaced, no kept value is one of them, and no rule has an empty name. -/
theorem storedForGood_iff (htexts : MappedTexts host) {document : Option Json} {stored : Json}
    (h : normalizePolicyInput host document = .ok stored) :
    StoredForGood host document stored ↔
      Sealed host document ∧ ∀ raw ∈ keptRules document, Named host raw := by
  rw [← sealed_iff h]
  constructor
  · exact fun hgood => ⟨hgood.hidden, (normalizePolicyInput_again htexts h).1 (hgood.stable id)⟩
  · exact fun hboth => ⟨hboth.1, fun _ => (normalizePolicyInput_again htexts h).2 hboth.2⟩

/-- A host that knows the digest of one key. -/
def keyHost : Host :=
  { Host.plain with
    sha256Hex := fun s =>
      if s = "k-1" then "7c35c5a1785d20704e44d5de4beb81c1fce91b6fe48ed7c3159af6f7f832078b" else s
    hashPolicySecret := fun s => "scrypt$" ++ s }

theorem mappedTexts_keyHost : MappedTexts keyHost := ⟨fun _ => rfl, fun _ _ => rfl⟩

/-- One `api_key` action. -/
def keyDocument (keys : Json) : Json :=
  .obj [("rules", .arr [.obj [("actions", .arr [
    .obj [("type", .str "api_key"), ("keys", keys)]])]])]

theorem not_storedForGood_key : ¬ ∀ document stored,
    normalizePolicyInput keyHost document = .ok stored →
      StoredForGood keyHost document stored := by
  intro h
  have hstored : normalizePolicyInput keyHost (some (keyDocument (.str "k-1"))) =
      .ok (documentOf "allow" true [ruleOf "rule-1" "Regra 1" true true
        (.obj [("methods", .arr []), ("sourceCidrs", .arr []), ("headers", .obj [])])
        [.obj [("type", .str "api_key"), ("keys", .str "k-1")]]]) := rfl
  have hsecret : Json.str "k-1" ∈ secretsOf keyHost (some (keyDocument (.str "k-1"))) := by
    decide +kernel
  refine (h _ _ hstored).hidden (.str "k-1") hsecret ?_
  decide +kernel

def keyStored : Json :=
  documentOf "allow" true [ruleOf "rule-1" "Regra 1" true true
    (.obj [("methods", .arr []), ("sourceCidrs", .arr []), ("headers", .obj [])])
    [.obj [("type", .str "api_key"), ("hashes", .arr [
      .str "7c35c5a1785d20704e44d5de4beb81c1fce91b6fe48ed7c3159af6f7f832078b"])]]]

theorem storedForGood_iff_key :
    normalizePolicyInput keyHost (some (keyDocument (.arr [.str "k-1"]))) = .ok keyStored ∧
    (StoredForGood keyHost (some (keyDocument (.arr [.str "k-1"]))) keyStored ↔
      Sealed keyHost (some (keyDocument (.arr [.str "k-1"]))) ∧
        ∀ raw ∈ keptRules (some (keyDocument (.arr [.str "k-1"]))), Named keyHost raw) := by
  have hstored : normalizePolicyInput keyHost (some (keyDocument (.arr [.str "k-1"]))) =
      .ok keyStored := rfl
  exact ⟨hstored, storedForGood_iff mappedTexts_keyHost hstored⟩

end Tunnara.Policy
