/-
# What an agent's token can change

A request made with the session token of an agent should change only tunnels and targets of that
agent. Each endpoint is given the exact condition under which it does; creating a tunnel always
does, because `store` rewrites the agent of the tunnel and of all its targets.
-/

import Tunnara.Laravel.TunnelApi

namespace Tunnara.Laravel

open OrdMap

/-- Every tunnel or target row that differs belongs to the agent before and after. -/
def ChangesOwnOnly (agentId : String) (before after : Database) : Prop :=
  ChangesOnly (fun tunnel : TunnelRow => tunnel.agentId = agentId) before.tunnels after.tunnels ∧
    ChangesOnly (fun target : TargetRow => target.agentId = agentId) before.targets after.targets

def updated (entries : List TargetPayload) (id : String) (row : TargetRow) : TargetRow :=
  (entries.filter fun p => p.id = some id).foldl TargetRow.update row

/-- The entries of an update create targets of the agent only, and each target of the
tunnel that they change or leave out is the agent's and stays so. -/
def EntriesOwn (agentId : String) (targets : OrdMap String TargetRow) (tunnelId : String)
    (entries : List TargetPayload) : Prop :=
  (∀ p ∈ entries, namedTarget tunnelId targets p = none → p.agentId = some agentId) ∧
  ∀ id row, targets.get? id = some row → row.tunnelId = tunnelId →
    ((∃ p ∈ entries, p.id = some id) → updated entries id row ≠ row →
      row.agentId = agentId ∧ (updated entries id row).agentId = agentId) ∧
    ((∀ p ∈ entries, p.id ≠ some id) → row.agentId = agentId)

/-- The requests that stay with the rows of the agent, by endpoint. -/
def StaysOwn (agentId : String) (db : Database) : TunnelRequest → Prop
  | .storeTunnel _ => True
  | .updateTunnel tunnelId p =>
    (∀ tunnel, db.tunnels.get? tunnelId = some tunnel → tunnel.update p ≠ tunnel →
      (tunnel.update p).agentId = agentId) ∧
    ∀ entries, p.targets = some entries → EntriesOwn agentId db.targets tunnelId entries
  | .destroyTunnel tunnelId =>
    ∀ id target, db.targets.get? id = some target → target.tunnelId = tunnelId →
      target.agentId = agentId
  | .storeTarget _ p => p.agentId = some agentId
  | .updateTarget _ targetId p =>
    ∀ target, db.targets.get? targetId = some target → target.update p ≠ target →
      target.agentId = agentId ∧ (target.update p).agentId = agentId
  | .destroyTarget _ targetId =>
    ∀ target, db.targets.get? targetId = some target → target.agentId = agentId

/-! ## Authorization and validation -/

variable {targetId id : String} {p : TargetPayload} {entries : List TargetPayload} {index : ℕ}
  {targets : OrdMap String TargetRow} {ids kept : List String}

section

variable {db : Database} {organizationId tunnelId agentId : String}

theorem tunnelOf_eq_ok {principal : Principal} {tunnel : TunnelRow}
    (h : tunnelOf principal db tunnelId = .ok tunnel) : db.tunnels.get? tunnelId = some tunnel := by
  unfold tunnelOf at h
  split at h
  · split at h
    · cases h
      assumption
    · cases h
  · cases h

theorem authorizeTunnelAccess_eq_ok {tunnel : TunnelRow}
    (h : authorizeTunnelAccess ⟨organizationId, some agentId⟩ tunnel = .ok ()) :
    tunnel.agentId = agentId := by
  unfold authorizeTunnelAccess at h
  dsimp only at h
  split at h
  · assumption
  · cases h

theorem targetOf_eq_ok {target : TargetRow} (h : targetOf db tunnelId targetId = .ok target) :
    db.targets.get? targetId = some target ∧ target.tunnelId = tunnelId := by
  unfold targetOf at h
  split at h
  · split at h
    · cases h
      exact ⟨‹_›, ‹_›⟩
    · cases h
  · cases h

theorem validTarget_agentId (h : validTarget db organizationId true p = true) :
    ∃ id, p.agentId = some id := by
  unfold validTarget at h
  cases hagent : p.agentId with
  | some id => exact ⟨id, rfl⟩
  | none => simp [hagent, check] at h

theorem validTunnel_targets {required : Bool} {p : TunnelPayload}
    (h : validTunnel db organizationId required p = true) (hentries : p.targets = some entries) :
    ∀ entry ∈ entries, validTarget db organizationId true entry = true := by
  have htargets := (Bool.and_eq_true_iff.1 h).2
  rw [hentries] at htargets
  simp only [check, Bool.and_eq_true, List.all_eq_true] at htargets
  exact fun entry hentry => (htargets.2 entry hentry).2

end

/-! ## Inserting and synchronising targets -/

theorem insertTargets_changesOnly {draw : ℕ → String} {organizationId tunnelId agentId : String}
    {next : OrdMap String TargetRow} (hown : ∀ p ∈ entries, p.agentId = some agentId)
    (h : insertTargets draw organizationId tunnelId index entries targets = .ok next) :
    ChangesOnly (fun target : TargetRow => target.agentId = agentId) targets next := by
  induction entries generalizing index targets with
  | nil =>
    cases h
    exact ChangesOnly.refl _ _
  | cons p rest ih =>
    rw [insertTargets] at h
    split at h
    · cases h
    · rename_i hfree
      have hnone : targets.get? (draw index) = none := by simpa using hfree
      have hcreated : (TargetRow.create (draw index) organizationId tunnelId p).agentId =
          agentId := by
        simp [TargetRow.create, hown p List.mem_cons_self]
      apply ((changesOnly_set_new_iff hnone).2 hcreated).trans
      exact ih (fun q hq => hown q (List.mem_cons_of_mem _ hq)) h

section

variable {draw : ℕ → String} {organizationId tunnelId : String}

theorem namedTarget_eq_some {row : TargetRow}
    (h : namedTarget tunnelId targets p = some (id, row)) :
    p.id = some id ∧ targets.get? id = some row ∧ row.tunnelId = tunnelId := by
  unfold namedTarget at h
  split at h
  · split at h
    · split at h
      · cases h
        exact ⟨‹_›, ‹_›, ‹_›⟩
      · cases h
    · cases h
  · cases h

theorem namedTarget_eq_none_congr {other : OrdMap String TargetRow} (h : ∀ id, p.id = some id →
      ((∃ row, targets.get? id = some row ∧ row.tunnelId = tunnelId) ↔
        ∃ row, other.get? id = some row ∧ row.tunnelId = tunnelId)) :
    namedTarget tunnelId targets p = none ↔ namedTarget tunnelId other p = none := by
  have hnamed : ∀ (m : OrdMap String TargetRow), namedTarget tunnelId m p = none ↔
      ∀ id, p.id = some id → ¬ ∃ row, m.get? id = some row ∧ row.tunnelId = tunnelId := by
    intro m
    unfold namedTarget
    cases p.id with
    | none => simp
    | some id =>
      cases hget : m.get? id with
      | none => simp [hget]
      | some row => by_cases htunnel : row.tunnelId = tunnelId <;> simp [hget, htunnel]
  rw [hnamed, hnamed]
  constructor
  · intro hall id hid hex
    exact hall id hid ((h id hid).2 hex)
  · intro hall id hid hex
    exact hall id hid ((h id hid).1 hex)

theorem updated_cons_of_eq (h : p.id = some id) (rest : List TargetPayload) (row : TargetRow) :
    updated (p :: rest) id row = updated rest id (row.update p) := by
  simp [updated, h]

theorem updated_cons_of_ne (h : p.id ≠ some id) (rest : List TargetPayload) (row : TargetRow) :
    updated (p :: rest) id row = updated rest id row := by
  simp [updated, h]

theorem updated_of_unnamed (h : ∀ p ∈ entries, p.id ≠ some id) (row : TargetRow) :
    updated entries id row = row := by
  have hnone : (entries.filter fun p => p.id = some id) = [] := by
    simpa [List.filter_eq_nil_iff] using h
  rw [updated, hnone]
  rfl

/-- What the loop leaves under a key, given what was there. -/
structure Synced (draw : ℕ → String) (organizationId tunnelId : String)
    (entries : List TargetPayload) (targets next : OrdMap String TargetRow)
    (ids kept : List String) : Prop where
  existing : ∀ id row, targets.get? id = some row →
    next.get? id = some (if row.tunnelId = tunnelId then updated entries id row else row)
  keeps : ∀ id row, targets.get? id = some row → row.tunnelId = tunnelId →
    (id ∈ kept ↔ id ∈ ids ∨ ∃ p ∈ entries, p.id = some id)
  created : ∀ id, targets.get? id = none → next.get? id = none ∨
    ∃ p ∈ entries, namedTarget tunnelId targets p = none ∧
      next.get? id = some (.create id organizationId tunnelId p)
  creates : ∀ p ∈ entries, namedTarget tunnelId targets p = none →
    ∃ id, targets.get? id = none ∧ id ∈ kept ∧
      next.get? id = some (.create id organizationId tunnelId p)
  mono : ∀ id ∈ ids, id ∈ kept
  createdKept : ∀ id, targets.get? id = none → next.get? id ≠ none → id ∈ kept

theorem Synced.cons_named {rest : List TargetPayload} {next : OrdMap String TargetRow}
    {row : TargetRow} (hnamed : namedTarget tunnelId targets p = some (id, row))
    (h : Synced draw organizationId tunnelId rest (targets.set id (row.update p)) next
      (ids ++ [id]) kept) :
    Synced draw organizationId tunnelId (p :: rest) targets next ids kept := by
  obtain ⟨hid, hrow, htunnel⟩ := namedTarget_eq_some hnamed
  have hcongr : ∀ q : TargetPayload,
      namedTarget tunnelId targets q = none ↔
        namedTarget tunnelId (targets.set id (row.update p)) q = none := by
    intro q
    apply namedTarget_eq_none_congr
    intro other _
    rw [get?_set]
    split
    · rename_i hother
      subst hother
      simp [hrow, htunnel, TargetRow.update]
    · exact Iff.rfl
  have hnone : ∀ other, targets.get? other = none ↔
      (targets.set id (row.update p)).get? other = none := by
    intro other
    rw [get?_set]
    split
    · rename_i hother
      subst hother
      simp [hrow]
    · exact Iff.rfl
  constructor
  · intro other found hfound
    by_cases hother : other = id
    · subst hother
      rw [hrow] at hfound
      cases hfound
      have hnext := h.existing other (row.update p) (get?_set_self ..)
      rw [if_pos (show (row.update p).tunnelId = tunnelId from htunnel)] at hnext
      rw [hnext, if_pos htunnel, updated_cons_of_eq hid]
    · have hne : p.id ≠ some other := fun heq => hother (Option.some.inj (heq.symm.trans hid))
      rw [h.existing other found (by rw [get?_set_of_ne _ hother]; exact hfound),
        updated_cons_of_ne hne]
  · intro other found hfound hfoundTunnel
    have hmid : ∃ after, (targets.set id (row.update p)).get? other = some after ∧
        after.tunnelId = tunnelId := by
      rw [get?_set]
      split
      · exact ⟨_, rfl, htunnel⟩
      · exact ⟨found, hfound, hfoundTunnel⟩
    obtain ⟨after, hafter, hafterTunnel⟩ := hmid
    rw [h.keeps other after hafter hafterTunnel]
    have hp : p.id = some other ↔ other = id := by
      rw [hid, Option.some.injEq, eq_comm]
    simp only [List.mem_append, List.mem_cons, List.not_mem_nil, exists_eq_or_imp, hp, or_assoc,
      false_or]
  · intro other hother
    rcases h.created other ((hnone other).1 hother) with hnil | ⟨q, hq, hqnone, hqrow⟩
    · exact Or.inl hnil
    · exact Or.inr ⟨q, List.mem_cons_of_mem _ hq, (hcongr q).2 hqnone, hqrow⟩
  · intro q hq hqnone
    rcases List.mem_cons.1 hq with rfl | hq
    · rw [hnamed] at hqnone
      cases hqnone
    · obtain ⟨other, hother, hkept, hrow⟩ := h.creates q hq ((hcongr q).1 hqnone)
      exact ⟨other, (hnone other).2 hother, hkept, hrow⟩
  · exact fun other hother => h.mono other (List.mem_append_left _ hother)
  · exact fun other hother => h.createdKept other ((hnone other).1 hother)

theorem Synced.cons_created {rest : List TargetPayload} {next : OrdMap String TargetRow}
    (hnamed : namedTarget tunnelId targets p = none) (hfree : targets.get? (draw index) = none)
    (hfresh : ∀ q ∈ rest, q.id ≠ some (draw index)) (h : Synced draw organizationId tunnelId rest
      (targets.set (draw index) (.create (draw index) organizationId tunnelId p)) next
      (ids ++ [draw index]) kept) :
    Synced draw organizationId tunnelId (p :: rest) targets next ids kept := by
  have hcongr : ∀ q ∈ rest, (namedTarget tunnelId targets q = none ↔
      namedTarget tunnelId
        (targets.set (draw index) (.create (draw index) organizationId tunnelId p)) q = none) := by
    intro q hq
    apply namedTarget_eq_none_congr
    intro other hother
    have hne : other ≠ draw index := fun heq => hfresh q hq (heq ▸ hother)
    rw [get?_set_of_ne _ hne]
  have hother : ∀ {other row}, targets.get? other = some row → other ≠ draw index := by
    rintro other row hrow rfl
    rw [hfree] at hrow
    cases hrow
  have hunnamed : ∀ {other row}, targets.get? other = some row → row.tunnelId = tunnelId →
      p.id ≠ some other := by
    intro other row hrow htunnel hid
    simp [namedTarget, hid, hrow, htunnel] at hnamed
  have hnew : next.get? (draw index) =
      some (.create (draw index) organizationId tunnelId p) := by
    rw [h.existing _ _ (get?_set_self ..), updated_of_unnamed hfresh, ite_self]
  constructor
  · intro other row hrow
    rw [h.existing other row (by rw [get?_set_of_ne _ (hother hrow)]; exact hrow)]
    split
    · rename_i htunnel
      rw [updated_cons_of_ne (hunnamed hrow htunnel)]
    · rfl
  · intro other row hrow htunnel
    rw [h.keeps other row (by rw [get?_set_of_ne _ (hother hrow)]; exact hrow) htunnel]
    simp [hother hrow, hunnamed hrow htunnel]
  · intro other hnone
    by_cases hdraw : other = draw index
    · subst hdraw
      exact Or.inr ⟨p, List.mem_cons_self, hnamed, hnew⟩
    · rcases h.created other (by rw [get?_set_of_ne _ hdraw]; exact hnone) with
        hnil | ⟨q, hq, hqnone, hqrow⟩
      · exact Or.inl hnil
      · exact Or.inr ⟨q, List.mem_cons_of_mem _ hq, (hcongr q hq).2 hqnone, hqrow⟩
  · intro q hq hqnone
    rcases List.mem_cons.1 hq with rfl | hq
    · exact ⟨draw index, hfree, h.mono _ (by simp), hnew⟩
    · obtain ⟨other, hnone, hkept, hrow⟩ := h.creates q hq ((hcongr q hq).1 hqnone)
      refine ⟨other, ?_, hkept, hrow⟩
      rw [get?_set] at hnone
      split at hnone
      · cases hnone
      · exact hnone
  · exact fun other hid => h.mono other (List.mem_append_left _ hid)
  · intro other hnone hne
    by_cases hdraw : other = draw index
    · subst hdraw
      exact h.mono _ (by simp)
    · exact h.createdKept other (by rw [get?_set_of_ne _ hdraw]; exact hnone) hne

theorem synced_of_syncTargets {next : OrdMap String TargetRow}
    (hfresh : ∀ p ∈ entries, ∀ i, p.id ≠ some (draw i))
    (h : syncTargets draw organizationId tunnelId index entries targets ids = .ok (next, kept)) :
    Synced draw organizationId tunnelId entries targets next ids kept := by
  induction entries generalizing index targets ids with
  | nil =>
    cases h
    constructor
    · intro id row hrow
      simp [updated, hrow]
    · simp
    · exact fun id hid => Or.inl hid
    · simp
    · exact fun id hid => hid
    · exact fun id hnone hne => absurd hnone hne
  | cons p rest ih =>
    have hfreshRest : ∀ q ∈ rest, ∀ i, q.id ≠ some (draw i) :=
      fun q hq => hfresh q (List.mem_cons_of_mem _ hq)
    rw [syncTargets] at h
    split at h
    · rename_i id row hnamed
      exact (ih hfreshRest h).cons_named hnamed
    · rename_i hnamed
      split at h
      · cases h
      · rename_i hfree
        exact (ih hfreshRest h).cons_created hnamed (by simpa using hfree)
          fun q hq => hfreshRest q hq index

end

theorem changesOnly_synced_iff {draw : ℕ → String} {organizationId tunnelId agentId : String}
    {next : OrdMap String TargetRow} (hagents : ∀ p ∈ entries, ∃ id, p.agentId = some id)
    (h : Synced draw organizationId tunnelId entries targets next [] kept) :
    ChangesOnly (fun target : TargetRow => target.agentId = agentId) targets
        (next.filter fun id target => target.tunnelId ≠ tunnelId || id ∈ kept) ↔
      EntriesOwn agentId targets tunnelId entries := by
  have hcreated : ∀ {p : TargetPayload} {id : String}, p ∈ entries →
      ((TargetRow.create id organizationId tunnelId p).agentId = agentId ↔
        p.agentId = some agentId) := by
    intro p id hp
    obtain ⟨agent, hagent⟩ := hagents p hp
    simp [TargetRow.create, hagent]
  have hkept : ∀ {id row}, targets.get? id = some row → row.tunnelId = tunnelId →
      (id ∈ kept ↔ ∃ p ∈ entries, p.id = some id) := by
    intro id row hrow htunnel
    rw [h.keeps id row hrow htunnel]
    simp
  have htunnelUpdated : ∀ id row, (updated entries id row).tunnelId = row.tunnelId := by
    intro id row
    unfold updated
    generalize (entries.filter fun p => decide (p.id = some id)) = named
    induction named generalizing row with
    | nil => rfl
    | cons p rest ih => exact ih _
  constructor
  · intro hchanges
    constructor
    · intro p hp hnamed
      obtain ⟨id, hnone, hid, hrow⟩ := h.creates p hp hnamed
      have hafter : (next.filter fun id target => target.tunnelId ≠ tunnelId || id ∈ kept).get? id =
          some (.create id organizationId tunnelId p) := by
        simp [get?_filter, hrow, Option.filter, hid]
      exact (hcreated hp).1 ((hchanges id (by rw [hnone, hafter]; rintro ⟨⟩)).2 _ hafter)
    · intro id row hrow htunnel
      have hnext := h.existing id row hrow
      rw [if_pos htunnel] at hnext
      constructor
      · intro hnamed hne
        have hafter : (next.filter fun id target =>
            target.tunnelId ≠ tunnelId || id ∈ kept).get? id = some (updated entries id row) := by
          simp [get?_filter, hnext, Option.filter, (hkept hrow htunnel).2 hnamed]
        have hboth := hchanges id (by rw [hrow, hafter]; simpa using hne.symm)
        exact ⟨hboth.1 row hrow, hboth.2 _ hafter⟩
      · intro hunnamed
        have hnot : id ∉ kept := by
          rw [hkept hrow htunnel]
          rintro ⟨p, hp, hid⟩
          exact hunnamed p hp hid
        have hafter : (next.filter fun id target =>
            target.tunnelId ≠ tunnelId || id ∈ kept).get? id = none := by
          simp [get?_filter, hnext, Option.filter, hnot, htunnelUpdated, htunnel]
        exact (hchanges id (by rw [hrow, hafter]; rintro ⟨⟩)).1 row hrow
  · rintro ⟨hcreates, hexisting⟩ id hid
    cases hrow : targets.get? id with
    | none =>
      refine ⟨by rintro _ ⟨⟩, ?_⟩
      rcases h.created id hrow with hnone | ⟨p, hp, hnamed, hnext⟩
      · simp [get?_filter, hnone]
      · intro after hafter
        rw [get?_filter, hnext] at hafter
        obtain ⟨hsame, -⟩ := Option.filter_eq_some_iff.1 hafter
        cases hsame
        exact (hcreated hp).2 (hcreates p hp hnamed)
    | some row =>
      have hnext := h.existing id row hrow
      rw [get?_filter, hnext, hrow] at hid
      rw [get?_filter, hnext]
      by_cases htunnel : row.tunnelId = tunnelId
      · rw [if_pos htunnel] at hid ⊢
        by_cases hnamed : ∃ p ∈ entries, p.id = some id
        · have hid' : id ∈ kept := (hkept hrow htunnel).2 hnamed
          have hne : updated entries id row ≠ row := by
            intro heq
            apply hid
            simp [Option.filter, hid', heq]
          obtain ⟨hbefore, hafter⟩ := (hexisting id row hrow htunnel).1 hnamed hne
          refine ⟨by rintro _ ⟨⟩; exact hbefore, ?_⟩
          intro after hsome
          cases (Option.filter_eq_some_iff.1 hsome).1
          exact hafter
        · have hunnamed : ∀ p ∈ entries, p.id ≠ some id :=
            fun p hp heq => hnamed ⟨p, hp, heq⟩
          have hbefore := (hexisting id row hrow htunnel).2 hunnamed
          refine ⟨by rintro _ ⟨⟩; exact hbefore, ?_⟩
          intro after hsome
          cases (Option.filter_eq_some_iff.1 hsome).1
          rw [updated_of_unnamed hunnamed]
          exact hbefore
      · rw [if_neg htunnel] at hid
        simp [Option.filter, htunnel] at hid

/-! ## The endpoints -/

/-- No entry of an update names an id that is only drawn while it is served. -/
def NamesNoDraw (draw : ℕ → String) : TunnelRequest → Prop
  | .updateTunnel _ p =>
    ∀ entries, p.targets = some entries → ∀ entry ∈ entries, ∀ i, entry.id ≠ some (draw i)
  | _ => True

section

variable {draw : ℕ → String} {organizationId agentId : String} {db next : Database}

theorem changesOwnOnly_storeTunnel {p : TunnelPayload}
    (h : storeTunnel ⟨organizationId, some agentId⟩ draw db p = .ok next) :
    ChangesOwnOnly agentId db next := by
  unfold storeTunnel at h
  split at h
  · dsimp only at h
    split at h
    · cases h
    · rename_i hfree
      obtain ⟨targets, htargets, rfl⟩ := map_eq_ok.1 h
      have hnone : db.tunnels.get? (draw 0) = none := by
        rw [Bool.or_eq_true, not_or] at hfree
        simpa using hfree.1
      constructor
      · exact (changesOnly_set_new_iff hnone).2 rfl
      · apply insertTargets_changesOnly _ htargets
        intro entry hentry
        cases hentries : p.targets with
        | none =>
          simp only [ownPayload, hentries, Option.map_none, Option.getD_none,
            List.mem_singleton] at hentry
          rw [hentry]
          rfl
        | some entries =>
          simp only [ownPayload, hentries, Option.map_some, Option.getD_some,
            List.mem_map] at hentry
          obtain ⟨_, -, rfl⟩ := hentry
          rfl
  · cases h

variable {tunnelId : String}

theorem changesOwnOnly_updateTunnel_iff {p : TunnelPayload}
    (hfresh : NamesNoDraw draw (.updateTunnel tunnelId p))
    (h : updateTunnel ⟨organizationId, some agentId⟩ draw db tunnelId p = .ok next) :
    ChangesOwnOnly agentId db next ↔ StaysOwn agentId db (.updateTunnel tunnelId p) := by
  simp only [updateTunnel, bind_eq_ok] at h
  obtain ⟨tunnel, htunnel, _, haccess, h⟩ := h
  have hget := tunnelOf_eq_ok htunnel
  have hown := authorizeTunnelAccess_eq_ok haccess
  split at h
  · cases h
  rename_i hvalid
  have hvalid : validTunnel db tunnel.organizationId false p = true := by simpa using hvalid
  split at h
  · cases h
  have htunnels : ChangesOnly (fun row : TunnelRow => row.agentId = agentId) db.tunnels
      (db.tunnels.set tunnelId (tunnel.update p)) ↔
      ∀ row, db.tunnels.get? tunnelId = some row → row.update p ≠ row →
        (row.update p).agentId = agentId := by
    rw [changesOnly_set_iff hget, hget]
    simp [hown]
  cases hentries : p.targets with
  | none =>
    simp only [hentries] at h
    cases h
    simp only [ChangesOwnOnly, StaysOwn, htunnels, hentries]
    exact and_congr_right fun _ => iff_of_true (ChangesOnly.refl _ _) (by rintro _ ⟨⟩)
  | some entries =>
    simp only [hentries, bind_eq_ok] at h
    obtain ⟨⟨targets, ids⟩, hsync, h⟩ := h
    have hsynced := synced_of_syncTargets (hfresh entries hentries) hsync
    have hagents : ∀ entry ∈ entries, ∃ id, entry.agentId = some id :=
      fun entry hentry => validTarget_agentId (validTunnel_targets hvalid hentries entry hentry)
    split at h
    · cases h
    · cases h
      simp only [ChangesOwnOnly, StaysOwn, htunnels, hentries, Option.some.injEq,
        forall_eq', changesOnly_synced_iff hagents hsynced]

theorem changesOwnOnly_destroyTunnel_iff
    (h : destroyTunnel ⟨organizationId, some agentId⟩ db tunnelId = .ok next) :
    ChangesOwnOnly agentId db next ↔ StaysOwn agentId db (.destroyTunnel tunnelId) := by
  simp only [destroyTunnel, bind_eq_ok] at h
  obtain ⟨tunnel, htunnel, _, haccess, h⟩ := h
  cases h
  have hown := authorizeTunnelAccess_eq_ok haccess
  simp only [ChangesOwnOnly, StaysOwn, changesOnly_erase_iff (tunnelOf_eq_ok htunnel),
    changesOnly_filter_iff]
  simp [hown]

theorem changesOwnOnly_storeTarget_iff
    (h : storeTarget ⟨organizationId, some agentId⟩ draw db tunnelId p = .ok next) :
    ChangesOwnOnly agentId db next ↔ StaysOwn agentId db (.storeTarget tunnelId p) := by
  simp only [storeTarget, bind_eq_ok] at h
  obtain ⟨tunnel, -, h⟩ := h
  split at h
  · rename_i hvalid
    obtain ⟨agent, hagent⟩ := validTarget_agentId hvalid
    obtain ⟨targets, htargets, rfl⟩ := map_eq_ok.1 h
    simp only [insertTargets] at htargets
    split at htargets
    · cases htargets
    · rename_i hfree
      cases htargets
      have hnone : db.targets.get? (draw 0) = none := by simpa using hfree
      simp only [ChangesOwnOnly, StaysOwn, changesOnly_set_new_iff hnone, TargetRow.create, hagent]
      simp [ChangesOnly.refl]
  · cases h

theorem changesOwnOnly_updateTarget_iff
    (h : updateTarget ⟨organizationId, some agentId⟩ db tunnelId targetId p = .ok next) :
    ChangesOwnOnly agentId db next ↔ StaysOwn agentId db (.updateTarget tunnelId targetId p) := by
  simp only [updateTarget, bind_eq_ok] at h
  obtain ⟨tunnel, -, target, htarget, h⟩ := h
  have hget := (targetOf_eq_ok htarget).1
  split at h
  · cases h
    simp only [ChangesOwnOnly, StaysOwn, changesOnly_set_iff hget, hget]
    simp [ChangesOnly.refl]
  · cases h

theorem changesOwnOnly_destroyTarget_iff
    (h : destroyTarget ⟨organizationId, some agentId⟩ db tunnelId targetId = .ok next) :
    ChangesOwnOnly agentId db next ↔ StaysOwn agentId db (.destroyTarget tunnelId targetId) := by
  simp only [destroyTarget, bind_eq_ok] at h
  obtain ⟨tunnel, -, target, htarget, h⟩ := h
  have hget := (targetOf_eq_ok htarget).1
  split at h
  · cases h
  · cases h
    simp only [ChangesOwnOnly, StaysOwn, changesOnly_erase_iff hget, hget]
    simp [ChangesOnly.refl]

theorem changesOwnOnly_serve_iff {request : TunnelRequest} (hfresh : NamesNoDraw draw request)
    (h : serve ⟨organizationId, some agentId⟩ draw db request = .ok next) :
    ChangesOwnOnly agentId db next ↔ StaysOwn agentId db request := by
  cases request with
  | storeTunnel p => exact iff_of_true (changesOwnOnly_storeTunnel h) trivial
  | updateTunnel tunnelId p => exact changesOwnOnly_updateTunnel_iff hfresh h
  | destroyTunnel tunnelId => exact changesOwnOnly_destroyTunnel_iff h
  | storeTarget tunnelId p => exact changesOwnOnly_storeTarget_iff h
  | updateTarget tunnelId targetId p => exact changesOwnOnly_updateTarget_iff h
  | destroyTarget tunnelId targetId => exact changesOwnOnly_destroyTarget_iff h

end

/-- A request with an agent's token changes only rows of the agent exactly when it is
refused or names only such rows itself: no endpoint but `store` sees to it. -/
theorem changesOwnOnly_handle_iff (php : Php) {now : ℕ} {draw : ℕ → String} {db : Database}
    {plainToken : String} {agent : AgentRow} {request : TunnelRequest}
    (hagent : authenticate php db plainToken now = some agent)
    (hfresh : NamesNoDraw draw request) :
    ChangesOwnOnly agent.id db (handle php now draw db plainToken request) ↔
      (∃ status, serve ⟨agent.organizationId, some agent.id⟩ draw (markOnline db agent now)
        request = .error status) ∨ StaysOwn agent.id db request := by
  unfold handle
  rw [hagent]
  dsimp only
  cases hserve : serve ⟨agent.organizationId, some agent.id⟩ draw (markOnline db agent now)
      request with
  | error status =>
    refine iff_of_true ?_ (Or.inl ⟨status, rfl⟩)
    exact ⟨ChangesOnly.refl _ _, ChangesOnly.refl _ _⟩
  | ok next =>
    have hiff : ChangesOwnOnly agent.id db next ↔ StaysOwn agent.id db request := by
      have hmarked := changesOwnOnly_serve_iff hfresh hserve
      cases request <;> exact hmarked
    simp [hiff]

def twoAgents : OrdMap String AgentRow :=
  (OrdMap.empty.set "a1" ⟨"a1", "org", "key", some "secret", some 1000, "online", none⟩).set "a2"
    ⟨"a2", "org", "key", none, none, "online", none⟩

def otherTarget (id : String) : TargetRow :=
  ⟨id, "org", "t2", "a2", id, "127.0.0.1", 3000, 1, 100, true, "healthy", none⟩

def otherTunnel : Database where
  agents := twoAgents
  presence := OrdMap.empty
  policies := OrdMap.empty
  tunnels := OrdMap.empty.set "t2" ⟨"t2", "org", "a2", none, "app", "http", "127.0.0.1", 3000, none,
    none, "active", none, false, 65536⟩
  targets := (OrdMap.empty.set "g1" (otherTarget "g1")).set "g2" (otherTarget "g2")

def firstAgent : AgentRow := ⟨"a1", "org", "key", some "secret", some 1000, "online", none⟩

/-- The first agent's token deletes a target of the second agent's tunnel. -/
theorem not_changesOwnOnly_destroyTarget :
    authenticate Php.plain otherTunnel "secret" 10 = some firstAgent ∧
      otherTunnel.targets.get? "g1" = some (otherTarget "g1") ∧
      (otherTarget "g1").agentId ≠ "a1" ∧
      (handle Php.plain 10 (fun _ => "") otherTunnel "secret"
        (.destroyTarget "t2" "g1")).targets.get? "g1" = none ∧
      ¬ ChangesOwnOnly "a1" otherTunnel
        (handle Php.plain 10 (fun _ => "") otherTunnel "secret" (.destroyTarget "t2" "g1")) := by
  have hbefore : otherTunnel.targets.get? "g1" = some (otherTarget "g1") := by decide
  have hafter : (handle Php.plain 10 (fun _ => "") otherTunnel "secret"
      (.destroyTarget "t2" "g1")).targets.get? "g1" = none := by decide
  refine ⟨by decide, hbefore, by decide, hafter, ?_⟩
  rintro ⟨-, htargets⟩
  have hown := (htargets "g1" (by rw [hbefore, hafter]; nofun)).1 _ hbefore
  exact absurd hown (by decide)

theorem changesOwnOnly_handle_iff_destroyTarget :
    ChangesOwnOnly firstAgent.id otherTunnel
        (handle Php.plain 10 (fun _ => "") otherTunnel "secret" (.destroyTarget "t2" "g1")) ↔
      (∃ status, serve ⟨firstAgent.organizationId, some firstAgent.id⟩ (fun _ => "")
        (markOnline otherTunnel firstAgent 10) (.destroyTarget "t2" "g1") = .error status) ∨
      StaysOwn firstAgent.id otherTunnel (.destroyTarget "t2" "g1") :=
  changesOwnOnly_handle_iff Php.plain
    (show authenticate Php.plain otherTunnel "secret" 10 = some firstAgent by decide) trivial

end Tunnara.Laravel
