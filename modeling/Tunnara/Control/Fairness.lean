/-
# Fairness of weighted routing

A client request is two lookups: the Edge resolves the host name without a pin, and the Relay
resolves the tunnel again, pinned to the target the Edge chose. Both advance the cursor of the
tunnel. A run interleaves requests for one host with any other lookups and with writes that leave
the eligible tier of the tunnel as it is.
-/

import Mathlib.Data.Nat.Prime.Basic
import Tunnara.Control.Routing
import Tunnara.Data.RoundRobin

namespace Tunnara.Control

open RoundRobin

/-- What the process does with the database during a run. -/
inductive Activity
  /-- One client request for the host: the lookup of the Edge, then that of the Relay. -/
  | request
  /-- `resolveTunnelById` on behalf of a probe, a sync or another consumer. -/
  | lookup (tunnelId : String) (requested : Option String)
  /-- Other code changes the tables; the cursors are not stored in them. -/
  | write (tables : Database)

/-- The target of the Edge's route. -/
def chosen (hostname : String) (db : Database) : Option TargetRow :=
  match (db.resolveTunnelByHostname hostname none).1 with
  | some (.found _ target _ _) => some target
  | _ => none

def step (hostname : String) (db : Database) : Activity → Database
  | .request =>
    match db.resolveTunnelByHostname hostname none with
    | (some (.found tunnel target _ _), next) =>
      (next.resolveTunnelById tunnel.id (some target.id)).2
    | (_, next) => next
  | .lookup tunnelId requested => (db.resolveTunnelById tunnelId requested).2
  | .write tables => { tables with targetSelectionCounters := db.targetSelectionCounters }

/-- The choices of the client requests of a run, in order. -/
def choices (hostname : String) : Database → List Activity → List (Option TargetRow)
  | _, [] => []
  | db, .request :: rest => chosen hostname db :: choices hostname (step hostname db .request) rest
  | db, activity :: rest => choices hostname (step hostname db activity) rest

def Activity.isRequest : Activity → Bool
  | .request => true
  | _ => false

/-- The list a cursor runs through for a given tier. -/
def schedule (tierRows : List TargetRow) : List TargetRow :=
  tierRows.flatMap fun target => List.replicate target.copies target

/-- The tunnel is active under the host name and has the given eligible tier. -/
structure HasTier (hostname : String) (tunnel : TunnelRow) (tierRows : List TargetRow)
    (db : Database) : Prop where
  byHostname : db.getTunnelByHostname hostname = some tunnel
  byId : db.getTunnel tunnel.id = some tunnel
  tier : tier (db.candidates tunnel.id) = tierRows

/-- The step leaves the tier as it is. -/
def KeepsTier (hostname : String) (tunnel : TunnelRow) (tierRows : List TargetRow)
    (db : Database) (activity : Activity) : Prop :=
  HasTier hostname tunnel tierRows (step hostname db activity)

/-- The step is a request, or does not advance the cursor of the tunnel. -/
def Quiet (tunnel : TunnelRow) (db : Database) : Activity → Prop
  | .request => True
  | .lookup tunnelId requested =>
    ∀ row, db.getTunnel tunnelId = some row → row.id = tunnel.id →
      online (pinned requested (db.candidates tunnel.id)) = []
  | .write _ => True

/-- `sum of min(100, weight_i)`. -/
def totalWeight (tierRows : List TargetRow) : ℕ :=
  (tierRows.map fun target => (min 100 target.weight).toNat).sum

/-- In every window of as many choices as the total weight, every target of the
tier is chosen as often as its capped weight says. -/
def WindowsExact (tierRows : List TargetRow) (made : List (Option TargetRow)) : Prop :=
  ∀ j, j + totalWeight tierRows ≤ made.length → ∀ target ∈ tierRows,
    ((made.drop j).take (totalWeight tierRows)).count (some target) = (min 100 target.weight).toNat

/-- The windows are exact, and the choices are those of the requests alone. -/
def Fair (hostname : String) (tierRows : List TargetRow) (db : Database)
    (activities : List Activity) : Prop :=
  WindowsExact tierRows (choices hostname db activities) ∧
    choices hostname db activities = choices hostname db (activities.filter Activity.isRequest)

theorem schedule_tier (targets : List Candidate) : schedule (tier targets) = weighted targets := rfl

variable {tierRows : List TargetRow}

theorem length_schedule : (schedule tierRows).length = totalWeight tierRows := by
  simp only [schedule, totalWeight, List.length_flatMap, List.length_replicate, copies_eq]

theorem count_schedule (hnodup : tierRows.Nodup) {target : TargetRow} (h : target ∈ tierRows) :
    (schedule tierRows).count target = (min 100 target.weight).toNat := by
  rw [← copies_eq]
  induction tierRows with
  | nil => cases h
  | cons row rest ih =>
    obtain ⟨hrow, hrest⟩ := List.nodup_cons.1 hnodup
    rw [schedule, List.flatMap_cons, List.count_append, List.count_replicate, ← schedule]
    rcases List.mem_cons.1 h with rfl | hmem
    · have habsent : (schedule rest).count target = 0 := by
        apply List.count_eq_zero_of_not_mem
        intro hin
        obtain ⟨other, hother, heq⟩ := List.mem_flatMap.1 hin
        exact hrow ((List.mem_replicate.1 heq).2 ▸ hother)
      simp [habsent]
    · have hne : row ≠ target := fun h => hrow (h ▸ hmem)
      simp [hne, ih hrest hmem]

theorem routeOf_snd (db : Database) (row : TunnelRow) (requested : Option String) :
    (db.routeOf row requested).2 = (db.selectTunnelTarget row.id requested).2 := by
  unfold Database.routeOf
  split <;> simp_all

variable {requested : Option String}

theorem routeOf_snd_of_offline {db : Database} {row : TunnelRow}
    (h : online (pinned requested (db.candidates row.id)) = []) :
    (db.routeOf row requested).2 = db := by
  rw [routeOf_snd, Database.selectTunnelTarget,
    if_pos (weighted_eq_nil_iff.2 (tier_eq_nil_iff.2 h))]

theorem routeOf_snd_of_online {db : Database} {row : TunnelRow}
    (h : online (pinned requested (db.candidates row.id)) ≠ []) :
    (db.routeOf row requested).2 = { db with
      targetSelectionCounters :=
        db.targetSelectionCounters.set row.id (db.cursor row.id + 1) } := by
  rw [routeOf_snd, Database.selectTunnelTarget,
    if_neg fun hnil => h (tier_eq_nil_iff.1 (weighted_eq_nil_iff.1 hnil))]

theorem HasTier.withCounters {hostname : String} {tunnel : TunnelRow} {db : Database}
    (h : HasTier hostname tunnel tierRows db) (counters : OrdMap String ℕ) :
    HasTier hostname tunnel tierRows { db with targetSelectionCounters := counters } :=
  ⟨h.byHostname, h.byId, h.tier⟩

section

variable {hostname : String} {tunnel : TunnelRow} {db : Database}

theorem HasTier.routeOf (h : HasTier hostname tunnel tierRows db) (row : TunnelRow)
    (requested : Option String) : HasTier hostname tunnel tierRows (db.routeOf row requested).2 := by
  by_cases honline : online (pinned requested (db.candidates row.id)) = []
  · rwa [routeOf_snd_of_offline honline]
  · rw [routeOf_snd_of_online honline]
    exact h.withCounters _

theorem HasTier.lookup (h : HasTier hostname tunnel tierRows db) (tunnelId : String)
    (requested : Option String) :
    HasTier hostname tunnel tierRows (db.resolveTunnelById tunnelId requested).2 := by
  unfold Database.resolveTunnelById
  split
  · exact h
  · exact h.routeOf _ _

theorem cursor_lookup_of_quiet {tunnelId : String}
    (hquiet : Quiet tunnel db (.lookup tunnelId requested)) :
    (db.resolveTunnelById tunnelId requested).2.cursor tunnel.id = db.cursor tunnel.id := by
  unfold Database.resolveTunnelById
  split
  · rfl
  · rename_i row hrow
    by_cases honline : online (pinned requested (db.candidates row.id)) = []
    · rw [routeOf_snd_of_offline honline]
    · have hne : row.id ≠ tunnel.id := fun h => honline (h ▸ hquiet row hrow h)
      rw [routeOf_snd_of_online honline]
      exact congrArg (Option.getD · 0) (OrdMap.get?_set_of_ne _ hne.symm _)

variable (htier : HasTier hostname tunnel tierRows db) (hne : tierRows ≠ [])
include htier hne

theorem online_candidates_ne_nil : online (db.candidates tunnel.id) ≠ [] := by
  rw [Ne, ← tier_eq_nil_iff, htier.tier]
  exact hne

theorem routeOf_snd_unpinned : (db.routeOf tunnel none).2 = { db with
    targetSelectionCounters :=
      db.targetSelectionCounters.set tunnel.id (db.cursor tunnel.id + 1) } :=
  routeOf_snd_of_online (online_candidates_ne_nil htier hne)

theorem selectTunnelTarget_fst :
    (db.selectTunnelTarget tunnel.id none).1 =
      pick (schedule tierRows) (db.cursor tunnel.id) := by
  have hweighted : weighted (db.candidates tunnel.id) = schedule tierRows := by
    rw [← schedule_tier, htier.tier]
  have hlist : schedule tierRows ≠ [] := by
    rw [← hweighted, Ne, weighted_eq_nil_iff, htier.tier]
    exact hne
  simp only [Database.selectTunnelTarget, pinned, hweighted, if_neg hlist, pick]

omit htier in
theorem pick_schedule {cursor : ℕ} :
    ∃ target ∈ tierRows, pick (schedule tierRows) cursor = some target := by
  obtain ⟨first, hfirst⟩ := List.exists_mem_of_ne_nil tierRows hne
  have hmem : first ∈ schedule tierRows :=
    List.mem_flatMap.2 ⟨first, hfirst, List.mem_replicate.2 ⟨copies_pos.ne', rfl⟩⟩
  have hlt : cursor % (schedule tierRows).length < (schedule tierRows).length :=
    Nat.mod_lt _ (List.length_pos_of_mem hmem)
  obtain ⟨owner, howner, hcopy⟩ := List.mem_flatMap.1 (List.getElem_mem hlt)
  refine ⟨owner, howner, ?_⟩
  rw [pick, List.getElem?_eq_getElem hlt, (List.mem_replicate.1 hcopy).2]

theorem routeOf_fst : ∃ target ∈ tierRows, ∃ presence policy,
    pick (schedule tierRows) (db.cursor tunnel.id) = some target ∧
      (db.routeOf tunnel none).1 = .found tunnel target presence policy := by
  obtain ⟨target, htarget, hpick⟩ := pick_schedule hne
  have hselect := selectTunnelTarget_fst htier hne
  rw [hpick] at hselect
  unfold Database.routeOf
  split
  · rename_i hnone
    rw [hnone] at hselect
    cases hselect
  · rename_i hsome
    rw [hsome] at hselect
    cases hselect
    exact ⟨_, htarget, _, _, hpick, rfl⟩

theorem chosen_eq_pick : chosen hostname db = pick (schedule tierRows) (db.cursor tunnel.id) := by
  obtain ⟨target, -, presence, policy, hpick, hroute⟩ := routeOf_fst htier hne
  simp only [chosen, Database.resolveTunnelByHostname, htier.byHostname, hroute, hpick]

theorem cursor_request :
    (step hostname db .request).cursor tunnel.id = db.cursor tunnel.id + 2 := by
  obtain ⟨target, htarget, presence, policy, -, hroute⟩ := routeOf_fst htier hne
  have hedge := routeOf_snd_unpinned htier hne
  have hpinned : online (pinned (some target.id) (db.candidates tunnel.id)) ≠ [] :=
    online_pinned_ne_nil (htier.tier.symm ▸ htarget)
  simp only [step, Database.resolveTunnelByHostname, htier.byHostname, hroute]
  rw [Database.resolveTunnelById, (htier.routeOf tunnel none).byId]
  rw [routeOf_snd_of_online (by rw [hedge]; exact hpinned), hedge]
  simp [Database.cursor]

theorem hasTier_request : HasTier hostname tunnel tierRows (step hostname db .request) := by
  obtain ⟨target, -, presence, policy, -, hroute⟩ := routeOf_fst htier hne
  simp only [step, Database.resolveTunnelByHostname, htier.byHostname, hroute]
  exact (htier.routeOf tunnel none).lookup _ _

end

section

variable {hostname : String} {tunnel : TunnelRow}

/-- The steps of a run that keep the tier and advance the cursor for requests only. -/
def KeepsTierQuietly (hostname : String) (tunnel : TunnelRow) (tierRows : List TargetRow)
    (db : Database) (activity : Activity) : Prop :=
  KeepsTier hostname tunnel tierRows db activity ∧ Quiet tunnel db activity

/-- How many client requests a run has. -/
def requestCount (activities : List Activity) : ℕ := activities.countP Activity.isRequest

@[simp]
theorem requestCount_request (rest : List Activity) :
    requestCount (.request :: rest) = requestCount rest + 1 :=
  List.countP_cons_of_pos rfl

@[simp]
theorem requestCount_lookup (tunnelId : String) (requested : Option String)
    (rest : List Activity) : requestCount (.lookup tunnelId requested :: rest) = requestCount rest :=
  List.countP_cons_of_neg nofun

@[simp]
theorem requestCount_write (tables : Database) (rest : List Activity) :
    requestCount (.write tables :: rest) = requestCount rest :=
  List.countP_cons_of_neg nofun

@[simp]
theorem requestCount_replicate (n : ℕ) : requestCount (List.replicate n .request) = n := by
  induction n with
  | zero => rfl
  | succ n ih => rw [List.replicate_succ, requestCount_request, ih]

theorem choices_eq_picks (hne : tierRows ≠ []) {activities : List Activity} {db : Database}
    (htier : HasTier hostname tunnel tierRows db)
    (halong : Transition.Along (step hostname) (KeepsTierQuietly hostname tunnel tierRows) db
      activities) :
    choices hostname db activities =
      picks (schedule tierRows) 2 (db.cursor tunnel.id) (requestCount activities) := by
  induction activities generalizing db with
  | nil => rfl
  | cons activity rest ih =>
    obtain ⟨⟨hnext, hquiet⟩, hrest⟩ := halong
    have htail := ih hnext hrest
    cases activity with
    | request =>
      rw [choices, chosen_eq_pick htier hne, htail, cursor_request htier hne,
        requestCount_request, picks_succ]
    | lookup tunnelId requested =>
      rw [choices, htail, step, cursor_lookup_of_quiet hquiet, requestCount_lookup]
      exact nofun
    | write tables =>
      rw [choices, htail, requestCount_write]
      · rfl
      · exact nofun

variable {db : Database}

theorem along_requests (hne : tierRows ≠ []) (htier : HasTier hostname tunnel tierRows db) (n : ℕ) :
    Transition.Along (step hostname) (KeepsTierQuietly hostname tunnel tierRows) db
      (List.replicate n .request) := by
  induction n generalizing db with
  | zero => trivial
  | succ n ih =>
    have hnext := hasTier_request htier hne
    exact ⟨⟨hnext, trivial⟩, ih hnext⟩

theorem filter_isRequest (activities : List Activity) :
    activities.filter Activity.isRequest = List.replicate (requestCount activities) .request := by
  induction activities with
  | nil => rfl
  | cons activity rest ih =>
    cases activity with
    | request =>
      rw [List.filter_cons_of_pos rfl, ih, requestCount_request, List.replicate_succ]
    | lookup tunnelId requested =>
      rw [List.filter_cons_of_neg (by simp [Activity.isRequest]), ih, requestCount_lookup]
    | write tables =>
      rw [List.filter_cons_of_neg (by simp [Activity.isRequest]), ih, requestCount_write]

theorem choices_requests (hne : tierRows ≠ []) (htier : HasTier hostname tunnel tierRows db)
    (activities : List Activity) :
    choices hostname db (activities.filter Activity.isRequest) =
      picks (schedule tierRows) 2 (db.cursor tunnel.id) (requestCount activities) := by
  rw [filter_isRequest, choices_eq_picks hne htier (along_requests hne htier _),
    requestCount_replicate]

theorem choices_eq_replicate {target : TargetRow} {activities : List Activity}
    (htier : HasTier hostname tunnel [target] db)
    (halong : Transition.Along (step hostname) (KeepsTier hostname tunnel [target]) db activities) :
    choices hostname db activities = List.replicate (requestCount activities) (some target) := by
  induction activities generalizing db with
  | nil => rfl
  | cons activity rest ih =>
    obtain ⟨hnext, hrest⟩ := halong
    have htail := ih hnext hrest
    cases activity with
    | request =>
      have hchosen : chosen hostname db = some target := by
        obtain ⟨other, hother, hpick⟩ :=
          pick_schedule (List.cons_ne_nil target [])
        rw [chosen_eq_pick htier (List.cons_ne_nil _ _), hpick, List.mem_singleton.1 hother]
      rw [choices, hchosen, htail, requestCount_request, List.replicate_succ]
    | lookup tunnelId requested =>
      rw [choices, htail, requestCount_lookup]
      exact nofun
    | write tables =>
      rw [choices, htail, requestCount_write]
      exact nofun

theorem windowsExact_replicate {target : TargetRow} {n : ℕ} :
    WindowsExact [target] (List.replicate n (some target)) := by
  intro j hj other hother
  rw [List.length_replicate] at hj
  have hshare : totalWeight [target] = (min 100 target.weight).toNat := by simp [totalWeight]
  rw [List.mem_singleton.1 hother, List.drop_replicate, List.take_replicate,
    List.count_replicate_self, ← hshare]
  omega

theorem windowsExact_picks (hnodup : tierRows.Nodup)
    (hweights : Odd (totalWeight tierRows) ∨ ∀ target ∈ tierRows, Even target.copies)
    {start n : ℕ} : WindowsExact tierRows (picks (schedule tierRows) 2 start n) := by
  intro j hj target htarget
  rw [length_picks] at hj
  rw [window_picks hj, ← count_schedule hnodup htarget, ← length_schedule]
  rcases Nat.even_or_odd (totalWeight tierRows) with ⟨half, hhalf⟩ | hodd
  · rcases hweights with hodd | heven
    · exact absurd ⟨half, hhalf⟩ (Nat.not_even_iff_odd.2 hodd)
    · exact hits_two_of_paired (length_schedule.trans hhalf)
        (paired_flatMap_replicate heven)
  · apply hits_of_coprime
    rw [length_schedule]
    exact Nat.coprime_two_right.2 hodd

theorem weights_of_windowsExact (hnodup : tierRows.Nodup) {start n : ℕ}
    (hn : totalWeight tierRows ≤ n)
    (hexact : WindowsExact tierRows (picks (schedule tierRows) 2 start n)) :
    Odd (totalWeight tierRows) ∨ ∀ target ∈ tierRows, Even target.copies := by
  rcases Nat.even_or_odd (totalWeight tierRows) with ⟨half, hhalf⟩ | hodd
  · refine Or.inr fun target htarget => ?_
    have hwindow := hexact 0 (by simpa using hn) target htarget
    rw [window_picks (by simpa using hn), ← count_schedule hnodup htarget,
      ← length_schedule] at hwindow
    have heven := even_count_of_hits_two (length_schedule.trans hhalf) hwindow
    rwa [count_schedule hnodup htarget, ← copies_eq] at heven
  · exact Or.inl hodd

theorem eq_singleton_of_pick_constant (hnodup : tierRows.Nodup) (hne : tierRows ≠ []) {start : ℕ}
    (hconstant : ∀ k, pick (schedule tierRows) (start + k) = pick (schedule tierRows) start) :
    ∃ target, tierRows = [target] := by
  have hpicked : ∀ target ∈ tierRows,
      pick (schedule tierRows) start = some target := by
    intro target htarget
    have hmem : target ∈ schedule tierRows :=
      List.mem_flatMap.2 ⟨target, htarget, List.mem_replicate.2 ⟨copies_pos.ne', rfl⟩⟩
    obtain ⟨p, hp, hget⟩ := List.getElem_of_mem hmem
    -- move the cursor to the position of the target in a later round
    have hround : start ≤ p + (schedule tierRows).length * start := by
      have hle := Nat.le_mul_of_pos_left start (Nat.zero_lt_of_lt hp)
      omega
    rw [← hconstant (p + (schedule tierRows).length * start - start), Nat.add_sub_cancel' hround,
      pick, Nat.add_mul_mod_self_left, Nat.mod_eq_of_lt hp, List.getElem?_eq_getElem hp, hget]
  cases htier : tierRows with
  | nil => exact absurd htier hne
  | cons first rest =>
    cases hrest : rest with
    | nil => exact ⟨first, rfl⟩
    | cons second others =>
      subst hrest
      subst htier
      have hsame := (hpicked first (by simp)).symm.trans (hpicked second (by simp))
      cases hsame
      simp at hnodup

theorem choices_lookups_request (hne : tierRows ≠ [])
    (htier : HasTier hostname tunnel tierRows db) {k : ℕ} :
    choices hostname db (List.replicate k (.lookup tunnel.id none) ++ [.request]) =
      [pick (schedule tierRows) (db.cursor tunnel.id + k)] ∧
    Transition.Along (step hostname) (KeepsTier hostname tunnel tierRows) db
      (List.replicate k (.lookup tunnel.id none) ++ [.request]) := by
  induction k generalizing db with
  | zero =>
    refine ⟨?_, hasTier_request htier hne, trivial⟩
    simp [choices, chosen_eq_pick htier hne]
  | succ k ih =>
    have hnext : HasTier hostname tunnel tierRows (step hostname db (.lookup tunnel.id none)) :=
      htier.lookup _ _
    have hcursor : (step hostname db (.lookup tunnel.id none)).cursor tunnel.id =
        db.cursor tunnel.id + 1 := by
      rw [step, Database.resolveTunnelById, htier.byId]
      rw [routeOf_snd_unpinned htier hne]
      simp [Database.cursor]
    obtain ⟨hchoices, halong⟩ := ih hnext
    refine ⟨?_, hnext, halong⟩
    rw [List.replicate_succ, List.cons_append, choices, hchoices, hcursor, Nat.add_assoc,
      Nat.add_comm 1 k]
    intro h
    cases h

/-- Weighted routing is fair in every run that keeps the tier exactly when the tier
has a single target. It is fair in every run in which only the requests advance the
cursor exactly when the total weight is odd or every capped weight is even. -/
theorem fair_iff (hne : tierRows ≠ []) {db : Database}
    (htier : HasTier hostname tunnel tierRows db) :
    ((∀ activities, Transition.Along (step hostname) (KeepsTier hostname tunnel tierRows) db
        activities → Fair hostname tierRows db activities) ↔
      ∃ target, tierRows = [target]) ∧
    ((∀ activities, Transition.Along (step hostname) (KeepsTierQuietly hostname tunnel tierRows)
        db activities → Fair hostname tierRows db activities) ↔
      Odd (totalWeight tierRows) ∨ ∀ target ∈ tierRows, Even (min 100 target.weight).toNat) := by
  have hnodup : tierRows.Nodup := htier.tier ▸ tier_nodup candidates_nodup
  simp only [← copies_eq]
  refine ⟨⟨fun hfair => ?_, ?_⟩, ⟨fun hfair => ?_, fun hweights activities halong => ?_⟩⟩
  · -- lookups in between may not move the next choice
    have hconstant : ∀ k, pick (schedule tierRows) (db.cursor tunnel.id + k) =
        pick (schedule tierRows) (db.cursor tunnel.id) := by
      intro k
      obtain ⟨hchoices, halong⟩ := choices_lookups_request hne htier
      have hundisturbed := (hfair _ halong).2
      have hone : requestCount (List.replicate k (.lookup tunnel.id none) ++ [.request]) = 1 := by
        simp [requestCount, Activity.isRequest]
      rw [hchoices, choices_requests hne htier, hone] at hundisturbed
      exact List.head_eq_of_cons_eq hundisturbed
    exact eq_singleton_of_pick_constant hnodup hne hconstant
  · rintro ⟨target, rfl⟩ activities halong
    have hrequests := (along_requests hne htier (requestCount activities)).mono
      fun _ _ h => h.1
    have hchoices := choices_eq_replicate htier halong
    have hundisturbed := choices_eq_replicate htier hrequests
    rw [requestCount_replicate] at hundisturbed
    rw [Fair, filter_isRequest, hchoices, hundisturbed]
    exact ⟨windowsExact_replicate, rfl⟩
  · have hrequests := along_requests hne htier (totalWeight tierRows)
    have hexact := (hfair _ hrequests).1
    rw [choices_eq_picks hne htier hrequests, requestCount_replicate] at hexact
    exact weights_of_windowsExact hnodup le_rfl hexact
  · rw [Fair, choices_requests hne htier, choices_eq_picks hne htier halong]
    exact ⟨windowsExact_picks hnodup hweights, rfl⟩

end

def pairTunnel : TunnelRow :=
  ⟨"t1", "org", "a1", none, "app", "http", "app.example.test", "active", false⟩

def pairTarget (id : String) : TargetRow :=
  ⟨id, "org", "t1", "a1", id, "127.0.0.1", 3000, 1, le_rfl, 100, true, "healthy"⟩

def pairTier : List TargetRow := [pairTarget "g1", pairTarget "g2"]

def pairDatabase : Database where
  agents := OrdMap.empty.set "a1" ⟨"a1", "org", "online", none⟩
  tunnels := OrdMap.empty.set "t1" pairTunnel
  targets := (OrdMap.empty.set "g1" (pairTarget "g1")).set "g2" (pairTarget "g2")
  policies := OrdMap.empty
  presence := OrdMap.empty
  targetSelectionCounters := OrdMap.empty
  targets_keyed := by decide

theorem hasTier_pair : HasTier "app.example.test" pairTunnel pairTier pairDatabase := by
  constructor <;> decide

/-- Two requests in a row go to the same one of two equal targets. -/
theorem not_fair_pair :
    HasTier "app.example.test" pairTunnel pairTier pairDatabase ∧
      Transition.Along (step "app.example.test")
        (KeepsTierQuietly "app.example.test" pairTunnel pairTier) pairDatabase
        [.request, .request] ∧
      choices "app.example.test" pairDatabase [.request, .request] =
        [some (pairTarget "g1"), some (pairTarget "g1")] ∧
      ¬ Fair "app.example.test" pairTier pairDatabase [.request, .request] := by
  have hchoices : choices "app.example.test" pairDatabase [.request, .request] =
      [some (pairTarget "g1"), some (pairTarget "g1")] := by decide
  refine ⟨hasTier_pair, along_requests (List.cons_ne_nil _ _) hasTier_pair 2, hchoices, ?_⟩
  rintro ⟨hexact, -⟩
  rw [hchoices] at hexact
  have hwindow := hexact 0 (by decide) (pairTarget "g1") (by decide)
  revert hwindow
  decide

theorem fair_iff_pair :
    ((∀ activities, Transition.Along (step "app.example.test")
        (KeepsTier "app.example.test" pairTunnel pairTier) pairDatabase activities →
        Fair "app.example.test" pairTier pairDatabase activities) ↔
      ∃ target, pairTier = [target]) ∧
    ((∀ activities, Transition.Along (step "app.example.test")
        (KeepsTierQuietly "app.example.test" pairTunnel pairTier) pairDatabase activities →
        Fair "app.example.test" pairTier pairDatabase activities) ↔
      Odd (totalWeight pairTier) ∨ ∀ target ∈ pairTier, Even (min 100 target.weight).toNat) :=
  fair_iff (List.cons_ne_nil _ _) hasTier_pair

end Tunnara.Control
