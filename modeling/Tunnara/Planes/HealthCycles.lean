/-
# The cycles of the health checks

`HealthCheckManager.runOnce` lists the targets, keeps the due ones and lets a few workers probe
them from one queue; the interval timer calls it again and again, and a flag keeps the cycles
apart. A probe that is under way settles at some later moment, in any order. `#probe` reads its
timeout before its own `try`, and `#due` reads the interval inside the filter; a configuration may
hold a value that `Number` rejects by throwing.
-/

import Tunnara.Data.Transition
import Tunnara.Data.WorkPool
import Tunnara.Policy.Engine
import Mathlib.Algebra.Order.BigOperators.Group.List
import Mathlib.Algebra.Order.Ring.Nat

namespace Tunnara.Planes

open Policy Transition

/-! ## The manager -/

/-- What the manager reads of a row of `listTargetsForHealthCheck`. The time is in milliseconds;
`none` is a target that was never checked. -/
structure ProbeTarget where
  id : String
  healthCheck : Json
  lastCheckedAt : Option ℤ
  deriving DecidableEq

/-- The listed rows, each with the reading of the clock at which `#due` looks at it. A row is
joined by primary keys, so no target is listed twice. -/
structure Listing where
  rows : List (ProbeTarget × ℤ)
  nodup : (rows.map fun row => row.1.id).Nodup

section

variable (host : Host)

/-- `target.health_check || {}`. -/
def ProbeTarget.check (target : ProbeTarget) : Json :=
  if target.healthCheck.truthy then target.healthCheck else .obj []

def due (target : ProbeTarget) (now : ℤ) : Except JsError Bool :=
  if target.check.get? "enabled" = some (.bool false) then .ok false
  else do
    let seconds ← numberOr host (target.check.get? "intervalSeconds") 30
    let interval := (seconds.max 5).map (· * 1000)
    match target.lastCheckedAt with
    | none => return true
    | some last => return interval.atMost (now - last : ℤ)

/-- `Math.max(250, Number(check.timeoutSeconds || 5) * 1000)` of `#probe`. -/
def probeTimeout (target : ProbeTarget) : Except JsError JsNumber := do
  let seconds ← numberOr host (target.check.get? "timeoutSeconds") 5
  return (seconds.map (· * 1000)).max 250

/-- `listTargetsForHealthCheck().filter((target) => this.#due(target))`. -/
def dueTargets : List (ProbeTarget × ℤ) → Except JsError (List ProbeTarget)
  | [] => .ok []
  | (target, now) :: rest => do
    let isDue ← due host target now
    let others ← dueTargets rest
    return if isDue then target :: others else others

def owed (rows : List (ProbeTarget × ℤ)) : List ProbeTarget :=
  (rows.filter fun row => (due host row.1 row.2).toOption = some true).map Prod.fst

/-- `#probe` gets as far as its `try`. -/
def probes (target : ProbeTarget) : Bool := (probeTimeout host target).isOk

end

/-- The flags, and the cycles so far; the workers of an old cycle may still be running. -/
structure HealthCheckManager where
  (running stopped : Bool)
  cycles : List (WorkPool ProbeTarget)

inductive CycleEvent
  /-- `runOnce`, called by `start` or by the timer. -/
  | runOnce (listing : Listing)
  /-- The probe at an index of a cycle settles. -/
  | settle (cycle index : ℕ)
  | stop

/-- A cycle whose filter threw. -/
def emptyCycle (jobs : List ProbeTarget) : WorkPool ProbeTarget :=
  { jobs, queue := [], flying := [], done := [], workers := 0, failed := true }

/-- `Promise.all` settles with the first worker that fails, or with the last that finishes; then
`finally` clears the flag. -/
def HealthCheckManager.step (host : Host) (concurrency : ℕ) (manager : HealthCheckManager) :
    CycleEvent → HealthCheckManager
  | .runOnce listing =>
    if manager.running || manager.stopped then manager
    else
      match dueTargets host listing.rows with
      | .error _ =>
        { manager with cycles := manager.cycles ++ [emptyCycle (owed host listing.rows)] }
      | .ok queue =>
        let cycle := WorkPool.start (probes host) concurrency queue
        { manager with running := !cycle.settled, cycles := manager.cycles ++ [cycle] }
  | .settle index probe =>
    match manager.cycles[index]? with
    | none => manager
    | some cycle =>
      let next := cycle.complete (probes host) probe
      { manager with
        running := if !cycle.settled && next.settled then false else manager.running
        cycles := manager.cycles.set index next }
  | .stop => { manager with stopped := true }

def HealthCheckManager.new : HealthCheckManager := ⟨false, false, []⟩

/-! ## The promise -/

/-- Complete and disjoint cycles. -/
structure Orderly (concurrency : ℕ) (manager : HealthCheckManager) : Prop where
  /-- A cycle that has settled has probed each of its targets once. -/
  complete : ∀ cycle ∈ manager.cycles, cycle.settled = true → cycle.done.Perm cycle.jobs
  /-- Until then a target is probed, under way or in the queue, and only once. -/
  once : ∀ cycle ∈ manager.cycles, (cycle.done ++ (cycle.flying ++ cycle.queue)).Perm cycle.jobs
  bounded : ∀ cycle ∈ manager.cycles, cycle.flying.length ≤ concurrency
  /-- Of two cycles at most one has not settled. -/
  single : ∀ (i j : ℕ) (first second : WorkPool ProbeTarget), manager.cycles[i]? = some first →
    manager.cycles[j]? = some second → first.settled = false → second.settled = false → i = j
  /-- Two probes under way are probes of different targets. -/
  apart : ∀ (i j k l : ℕ) (first second : WorkPool ProbeTarget) (one other : ProbeTarget),
    manager.cycles[i]? = some first → manager.cycles[j]? = some second →
    first.flying[k]? = some one → second.flying[l]? = some other → one.id = other.id →
    i = j ∧ k = l
  /-- The flag is up exactly while a cycle has not settled, and then a probe is under way. -/
  flag : manager.running = true ↔ ∃ cycle ∈ manager.cycles, cycle.settled = false
  waiting : ∀ cycle ∈ manager.cycles, cycle.settled = false → cycle.flying ≠ []

/-- `runOnce` begins a cycle of the due targets, unless one is running. -/
def BeginsCycle (host : Host) (concurrency : ℕ) (manager : HealthCheckManager)
    (event : CycleEvent) : Prop :=
  ∀ listing, event = .runOnce listing → manager.running = false → manager.stopped = false →
    ∃ cycle : WorkPool ProbeTarget, cycle.jobs = owed host listing.rows ∧
      (manager.step host concurrency event).cycles = manager.cycles ++ [cycle]

/-- A probe settles that is under way. -/
def HealthCheckManager.settles (manager : HealthCheckManager) : CycleEvent → Bool
  | .settle index probe =>
    match manager.cycles[index]? with
    | none => false
    | some cycle => probe < cycle.flying.length
  | _ => false

/-- How many probes settle in a run. -/
def settlements (host : Host) (concurrency : ℕ) : HealthCheckManager → List CycleEvent → ℕ
  | _, [] => 0
  | manager, event :: events =>
    (if manager.settles event then 1 else 0) +
      settlements host concurrency (manager.step host concurrency event) events

/-- The probes that all cycles together still have to make. -/
def HealthCheckManager.outstanding (manager : HealthCheckManager) : ℕ :=
  (manager.cycles.map WorkPool.outstanding).sum

/-- **The condition**: when a cycle begins, the intervals of the listed targets and the timeouts
of the due ones convert to numbers. -/
def Convertible (host : Host) (manager : HealthCheckManager) : CycleEvent → Prop
  | .runOnce listing => manager.running = false → manager.stopped = false →
      (∀ row ∈ listing.rows, (due host row.1 row.2).isOk = true) ∧
        ∀ target ∈ owed host listing.rows, probes host target = true
  | _ => True

/-! ## Listing -/

variable {host : Host} {concurrency : ℕ} {manager : HealthCheckManager}
  {rows : List (ProbeTarget × ℤ)} {queue : List ProbeTarget}

theorem owed_cons_of_ok {row : ProbeTarget × ℤ} {isDue : Bool}
    (h : due host row.1 row.2 = .ok isDue) : owed host (row :: rows) =
      if isDue then row.1 :: owed host rows else owed host rows := by
  unfold owed
  rw [List.filter_cons, h]
  cases isDue <;> rfl

theorem dueTargets_eq (h : ∀ row ∈ rows, (due host row.1 row.2).isOk = true) :
    dueTargets host rows = .ok (owed host rows) := by
  induction rows with
  | nil => rfl
  | cons row rest ih =>
    have hrest := ih fun other hother => h other (List.mem_cons_of_mem _ hother)
    cases hdue : due host row.1 row.2 with
    | error error =>
      have hok := h row List.mem_cons_self
      rw [hdue] at hok
      cases hok
    | ok isDue =>
      unfold dueTargets
      rw [owed_cons_of_ok hdue, hdue, hrest]
      rfl

theorem owed_nodup {listing : Listing} : ((owed host listing.rows).map ProbeTarget.id).Nodup := by
  unfold owed
  rw [List.map_map]
  exact listing.nodup.sublist (List.filter_sublist.map _)

/-! ## What the condition keeps -/

/-- Every cycle is sound, and only the last may still be running. -/
structure InOrder (host : Host) (concurrency : ℕ) (manager : HealthCheckManager) : Prop where
  sound : ∀ cycle ∈ manager.cycles, cycle.Sound (probes host) concurrency
  distinct : ∀ cycle ∈ manager.cycles, (cycle.jobs.map ProbeTarget.id).Nodup
  last : ∀ index cycle, manager.cycles[index]? = some cycle → cycle.settled = false →
    index + 1 = manager.cycles.length
  flag : manager.running = true ↔ ∃ cycle ∈ manager.cycles, cycle.settled = false

theorem InOrder.orderly (h : InOrder host concurrency manager) : Orderly concurrency manager := by
  have hsettled : ∀ index cycle, manager.cycles[index]? = some cycle → cycle.flying ≠ [] →
      index + 1 = manager.cycles.length := by
    intro index cycle hcycle hflying
    refine h.last index cycle hcycle (Bool.eq_false_iff.2 fun hdone => hflying ?_)
    exact (h.sound cycle (List.mem_of_getElem? hcycle)).settled_iff.1 hdone
  constructor
  case complete => exact fun cycle hcycle hdone => (h.sound cycle hcycle).done_perm hdone
  case once => exact fun cycle hcycle => (h.sound cycle hcycle).jobs
  case bounded => exact fun cycle hcycle => (h.sound cycle hcycle).bounded
  case single =>
    intro i j first second hfirst hsecond hone hother
    have hi := h.last i first hfirst hone
    have hj := h.last j second hsecond hother
    omega
  case apart =>
    intro i j k l first second one other hfirst hsecond hone hother hid
    have hi := hsettled i first hfirst (List.ne_nil_of_mem (List.mem_of_getElem? hone))
    have hj := hsettled j second hsecond (List.ne_nil_of_mem (List.mem_of_getElem? hother))
    have hij : i = j := by omega
    subst hij
    rw [hfirst] at hsecond
    cases hsecond
    refine ⟨rfl, ?_⟩
    have hcycle := List.mem_of_getElem? hfirst
    -- the targets under way are among those of the cycle, which are distinct
    have hnodup : (first.flying.map ProbeTarget.id).Nodup := by
      have hall := (((h.sound first hcycle).jobs.map ProbeTarget.id).nodup_iff).2
        (h.distinct first hcycle)
      rw [List.map_append, List.map_append] at hall
      exact (List.nodup_append.1 (List.nodup_append.1 hall).2.1).1
    obtain ⟨hk, rfl⟩ := List.getElem?_eq_some_iff.1 hone
    obtain ⟨hl, rfl⟩ := List.getElem?_eq_some_iff.1 hother
    have hinjective := List.nodup_iff_injective_getElem.1 hnodup
    have hsame : (⟨k, by simpa using hk⟩ : Fin (first.flying.map ProbeTarget.id).length) =
        ⟨l, by simpa using hl⟩ := hinjective (by simpa using hid)
    exact congrArg Fin.val hsame
  case flag => exact h.flag
  case waiting =>
    intro cycle hcycle hopen hnone
    rw [(h.sound cycle hcycle).settled_iff.2 hnone] at hopen
    cases hopen

theorem inOrder_new : InOrder host concurrency .new where
  sound := nofun
  distinct := nofun
  last := by
    intro index cycle hcycle
    cases hcycle
  flag := iff_of_false Bool.false_ne_true (by rintro ⟨cycle, hcycle, -⟩; cases hcycle)

theorem inOrder_runOnce (h : InOrder host concurrency manager) (hconcurrency : 1 ≤ concurrency)
    {listing : Listing} (hguard : Convertible host manager (.runOnce listing)) :
    InOrder host concurrency (manager.step host concurrency (.runOnce listing)) := by
  unfold HealthCheckManager.step
  dsimp only
  split_ifs with hbusy
  · exact h
  rw [Bool.or_eq_true, not_or, Bool.not_eq_true, Bool.not_eq_true] at hbusy
  obtain ⟨hintervals, htimeouts⟩ := hguard hbusy.1 hbusy.2
  rw [dueTargets_eq hintervals]
  dsimp only
  have hsound := WorkPool.sound_start hconcurrency htimeouts
  have hidle : ∀ cycle ∈ manager.cycles, cycle.settled = true := by
    intro cycle hcycle
    by_contra hopen
    have hrunning := h.flag.2 ⟨cycle, hcycle, Bool.eq_false_iff.2 hopen⟩
    rw [hbusy.1] at hrunning
    cases hrunning
  have hjobs : (WorkPool.start (probes host) concurrency (owed host listing.rows)).jobs =
      owed host listing.rows := by
    rw [WorkPool.start_eq htimeouts]
  generalize WorkPool.start (probes host) concurrency (owed host listing.rows) = cycle at *
  constructor
  case sound =>
    intro other hother
    rcases List.mem_append.1 hother with hold | hnew
    · exact h.sound other hold
    · rw [List.mem_singleton.1 hnew]
      exact hsound
  case distinct =>
    intro other hother
    rcases List.mem_append.1 hother with hold | hnew
    · exact h.distinct other hold
    · rw [List.mem_singleton.1 hnew, hjobs]
      exact owed_nodup
  case last =>
    intro index other hother hopen
    rw [List.length_append, List.length_singleton]
    obtain ⟨hlt, rfl⟩ := List.getElem?_eq_some_iff.1 hother
    rw [List.length_append, List.length_singleton] at hlt
    by_contra hne
    have hbefore : index < manager.cycles.length := by omega
    rw [List.getElem_append_left hbefore, hidle _ (List.getElem_mem hbefore)] at hopen
    cases hopen
  case flag =>
    rw [Bool.not_eq_true']
    constructor
    · exact fun hopen => ⟨cycle, by simp, hopen⟩
    · rintro ⟨other, hother, hopen⟩
      rcases List.mem_append.1 hother with hold | hnew
      · rw [hidle other hold] at hopen
        cases hopen
      · rw [← List.mem_singleton.1 hnew]
        exact hopen

variable {index probe : ℕ} {cycle : WorkPool ProbeTarget}

section

variable (h : InOrder host concurrency manager)
include h

theorem step_settle_of_settled (hcycle : manager.cycles[index]? = some cycle)
    (hdone : cycle.settled = true) :
    manager.step host concurrency (.settle index probe) = manager := by
  have hflying := (h.sound cycle (List.mem_of_getElem? hcycle)).settled_iff.1 hdone
  have hsame : cycle.complete (probes host) probe = cycle := by
    unfold WorkPool.complete
    rw [hflying]
    rfl
  unfold HealthCheckManager.step
  dsimp only
  rw [hcycle]
  dsimp only
  rw [hsame, hdone]
  obtain ⟨hlt, rfl⟩ := List.getElem?_eq_some_iff.1 hcycle
  rw [List.set_getElem_self]
  rfl

theorem inOrder_settle_of_open (hcycle : manager.cycles[index]? = some cycle)
    (hopen : cycle.settled = false) :
    InOrder host concurrency (manager.step host concurrency (.settle index probe)) := by
  have hmem := List.mem_of_getElem? hcycle
  have hsound := WorkPool.sound_complete (h.sound cycle hmem) probe
  have hjobs := @WorkPool.jobs_complete _ (probes host) cycle probe
  have hlast := h.last index cycle hcycle hopen
  have hlt : index < manager.cycles.length := (List.getElem?_eq_some_iff.1 hcycle).1
  have hrunning : manager.running = true := h.flag.2 ⟨cycle, hmem, hopen⟩
  have hothers : ∀ other ∈ manager.cycles.set index (cycle.complete (probes host) probe),
      other.settled = false → other = cycle.complete (probes host) probe := by
    intro other hother hotherOpen
    obtain ⟨j, hj⟩ := List.mem_iff_getElem?.1 hother
    rw [List.getElem?_set] at hj
    split_ifs at hj with hsame
    · exact (Option.some.inj hj).symm
    · have hjlast := h.last j other hj hotherOpen
      omega
  unfold HealthCheckManager.step
  dsimp only
  rw [hcycle]
  dsimp only
  generalize cycle.complete (probes host) probe = next at *
  rw [hopen, hrunning]
  constructor
  case sound =>
    intro other hother
    rcases List.mem_or_eq_of_mem_set hother with hold | rfl
    · exact h.sound other hold
    · exact hsound
  case distinct =>
    intro other hother
    rcases List.mem_or_eq_of_mem_set hother with hold | rfl
    · exact h.distinct other hold
    · rw [hjobs]
      exact h.distinct cycle hmem
  case last =>
    intro j other hother hotherOpen
    rw [List.length_set]
    rw [List.getElem?_set] at hother
    split_ifs at hother with hsame
    · omega
    · exact h.last j other hother hotherOpen
  case flag =>
    cases hnext : next.settled with
    | true =>
      refine iff_of_false Bool.false_ne_true ?_
      rintro ⟨other, hother, hotherOpen⟩
      rw [hothers other hother hotherOpen, hnext] at hotherOpen
      cases hotherOpen
    | false => exact iff_of_true rfl ⟨next, List.mem_set hlt next, hnext⟩

theorem inOrder_step (hconcurrency : 1 ≤ concurrency) {event : CycleEvent}
    (hguard : Convertible host manager event) :
    InOrder host concurrency (manager.step host concurrency event) := by
  cases event with
  | runOnce listing => exact inOrder_runOnce h hconcurrency hguard
  | settle index probe =>
    cases hcycle : manager.cycles[index]? with
    | none =>
      unfold HealthCheckManager.step
      dsimp only
      rw [hcycle]
      exact h
    | some cycle =>
      cases hopen : cycle.settled with
      | true =>
        rw [step_settle_of_settled h hcycle hopen]
        exact h
      | false => exact inOrder_settle_of_open h hcycle hopen
  | stop => exact ⟨h.sound, h.distinct, h.last, h.flag⟩

end

theorem beginsCycle_of_convertible {event : CycleEvent} (hguard : Convertible host manager event) :
    BeginsCycle host concurrency manager event := by
  rintro listing rfl hidle hgoing
  obtain ⟨hintervals, htimeouts⟩ := hguard hidle hgoing
  refine ⟨WorkPool.start (probes host) concurrency (owed host listing.rows), ?_, ?_⟩
  · rw [WorkPool.start_eq htimeouts]
  · unfold HealthCheckManager.step
    dsimp only
    rw [hidle, hgoing, dueTargets_eq hintervals]
    rfl

/-! ## The flag is released -/

theorem sum_map_set {α : Type*} (f : α → ℕ) (items : List α) (value : α)
    (hindex : index < items.length) :
    ((items.set index value).map f).sum + f items[index] = (items.map f).sum + f value := by
  induction items generalizing index with
  | nil => cases hindex
  | cons item rest ih =>
    cases index with
    | zero =>
      simp only [List.set_cons_zero, List.map_cons, List.sum_cons, List.getElem_cons_zero]
      omega
    | succ index =>
      have hrest := ih (Nat.lt_of_succ_lt_succ hindex)
      simp only [List.set_cons_succ, List.map_cons, List.sum_cons, List.getElem_cons_succ]
      omega

theorem settles_of_get? (hcycle : manager.cycles[index]? = some cycle) :
    manager.settles (.settle index probe) = decide (probe < cycle.flying.length) := by
  unfold HealthCheckManager.settles
  dsimp only
  rw [hcycle]

theorem cycles_settle (hcycle : manager.cycles[index]? = some cycle) :
    (manager.step host concurrency (.settle index probe)).cycles =
      manager.cycles.set index (cycle.complete (probes host) probe) := by
  unfold HealthCheckManager.step
  dsimp only
  rw [hcycle]

theorem outstanding_settle {index probe : ℕ} :
    (if manager.settles (.settle index probe) then 1 else 0) +
      (manager.step host concurrency (.settle index probe)).outstanding ≤
        manager.outstanding := by
  cases hcycle : manager.cycles[index]? with
  | none =>
    have hsettles : manager.settles (.settle index probe) = false := by
      unfold HealthCheckManager.settles
      dsimp only
      rw [hcycle]
    have hstep : manager.step host concurrency (.settle index probe) = manager := by
      unfold HealthCheckManager.step
      dsimp only
      rw [hcycle]
    rw [hsettles, hstep, if_neg Bool.false_ne_true, Nat.zero_add]
  | some cycle =>
    unfold HealthCheckManager.outstanding
    rw [settles_of_get? hcycle, cycles_settle hcycle]
    obtain ⟨hlt, rfl⟩ := List.getElem?_eq_some_iff.1 hcycle
    have hsum := sum_map_set WorkPool.outstanding manager.cycles
      (manager.cycles[index].complete (probes host) probe) hlt
    by_cases hprobe : probe < manager.cycles[index].flying.length
    · have hless := @WorkPool.outstanding_complete _ (probes host) _ _ hprobe
      rw [if_pos (decide_eq_true hprobe)]
      omega
    · have hsame : manager.cycles[index].complete (probes host) probe =
          manager.cycles[index] := by
        unfold WorkPool.complete
        rw [List.getElem?_eq_none (Nat.le_of_not_lt hprobe)]
      rw [hsame] at hsum ⊢
      rw [if_neg (by simpa using hprobe)]
      omega

theorem outstanding_step (hrunning : manager.running = true) (event : CycleEvent) :
    (if manager.settles event then 1 else 0) +
      (manager.step host concurrency event).outstanding ≤ manager.outstanding := by
  cases event with
  | runOnce listing =>
    have hstep : manager.step host concurrency (.runOnce listing) = manager := by
      unfold HealthCheckManager.step
      dsimp only
      rw [hrunning, Bool.true_or, if_pos rfl]
    rw [hstep]
    exact (Nat.zero_add _).le
  | settle index probe => exact outstanding_settle
  | stop => exact (Nat.zero_add _).le

theorem settlements_le {events : List CycleEvent} (h : Throughout
    (HealthCheckManager.step host concurrency) (fun state => state.running = true) manager
      events) :
    settlements host concurrency manager events +
      (run (HealthCheckManager.step host concurrency) manager events).outstanding ≤
        manager.outstanding := by
  induction events generalizing manager with
  | nil => exact (Nat.zero_add _).le
  | cons event events ih =>
    have hfirst := @outstanding_step host concurrency manager h.1 event
    have hrest := ih h.2
    change (if manager.settles event then 1 else 0) + settlements host concurrency
      (manager.step host concurrency event) events + _ ≤ _
    rw [run_cons]
    omega

theorem InOrder.outstanding_pos (h : InOrder host concurrency manager)
    (hrunning : manager.running = true) : 0 < manager.outstanding := by
  obtain ⟨cycle, hcycle, hopen⟩ := h.flag.1 hrunning
  have hflying := h.orderly.waiting cycle hcycle hopen
  have hwork : 0 < cycle.outstanding := by
    have hlength := List.length_pos_iff.2 hflying
    unfold WorkPool.outstanding
    omega
  exact lt_of_lt_of_le hwork
    (List.single_le_sum (fun _ _ => Nat.zero_le _) _ (List.mem_map_of_mem hcycle))

/-! ## Runs -/

/-- In every run whose configurations convert, for every order in which the probes settle: every
state is orderly, every call of `runOnce` begins a cycle of the due targets unless one is
running, and while the flag is up fewer probes settle than were outstanding. -/
theorem orderly_throughout (hconcurrency : 1 ≤ concurrency) (events : List CycleEvent)
    (h : Along (HealthCheckManager.step host concurrency) (Convertible host) .new events) :
    Throughout (HealthCheckManager.step host concurrency) (Orderly concurrency) .new events ∧
      Along (HealthCheckManager.step host concurrency) (BeginsCycle host concurrency) .new
        events ∧
      ∀ earlier later, events = earlier ++ later →
        Throughout (HealthCheckManager.step host concurrency) (fun state => state.running = true)
          (run (HealthCheckManager.step host concurrency) .new earlier) later →
        settlements host concurrency
            (run (HealthCheckManager.step host concurrency) .new earlier) later <
          (run (HealthCheckManager.step host concurrency) .new earlier).outstanding := by
  have hstep : ∀ state event, InOrder host concurrency state → Convertible host state event →
      InOrder host concurrency (state.step host concurrency event) :=
    fun _ event hstate hguard => inOrder_step hstate hconcurrency hguard
  refine ⟨?_, ?_, ?_⟩
  · exact (h.throughout hstep inOrder_new).mono fun _ hstate => hstate.orderly
  · exact h.mono fun _ _ hguard => beginsCycle_of_convertible hguard
  · rintro earlier later rfl hrunning
    have hend := h.invariant hstep inOrder_new
    rw [run_append] at hend
    have hcount := settlements_le hrunning
    have hpos := hend.outstanding_pos hrunning.last
    omega

def dueTarget (id : String) (healthCheck : Json) : ProbeTarget := ⟨id, healthCheck, none⟩

/-- The first target has the timeout `\x7btoString: 1\x7d`. -/
def brokenTimeout : Listing where
  rows := [(dueTarget "g0" (.obj [("timeoutSeconds", .obj [("toString", .num 1)])]), 0),
    (dueTarget "g1" (.obj []), 0)]
  nodup := by decide

/-- The flag is cleared while the second target is probed, and the next cycle probes it again. -/
theorem not_orderly_brokenTimeout : ¬ ∀ concurrency, 1 ≤ concurrency → ∀ events,
    Throughout (HealthCheckManager.step .plain concurrency) (Orderly concurrency) .new events := by
  intro h
  have hlast := (h 2 (by decide) [.runOnce brokenTimeout, .runOnce brokenTimeout]).last
  have hcycles : (run (HealthCheckManager.step .plain 2) .new
      [.runOnce brokenTimeout, .runOnce brokenTimeout]).cycles.map WorkPool.flying =
        [[dueTarget "g1" (.obj [])], [dueTarget "g1" (.obj [])]] := by decide +kernel
  obtain ⟨first, rest, hfirst, hone, hrest⟩ := List.map_eq_cons_iff.1 hcycles
  obtain ⟨second, rest', hsecond, hother, -⟩ := List.map_eq_cons_iff.1 hrest
  have hsame := hlast.apart 0 1 0 0 first second (dueTarget "g1" (.obj []))
    (dueTarget "g1" (.obj [])) (by rw [hfirst]; rfl) (by rw [hfirst, hsecond]; rfl)
    (by rw [hone]; rfl) (by rw [hother]; rfl) rfl
  exact absurd hsame.1 (by decide)

def plainListing : Listing where
  rows := [(dueTarget "g0" (.obj []), 0), (dueTarget "g1" (.obj [("enabled", .bool false)]), 0)]
  nodup := by decide

theorem orderly_throughout_plainListing :
    Throughout (HealthCheckManager.step .plain 1) (Orderly 1) .new
        [.runOnce plainListing, .settle 0 0] ∧
      Along (HealthCheckManager.step .plain 1) (BeginsCycle .plain 1) .new
        [.runOnce plainListing, .settle 0 0] ∧
      ∀ earlier later, [CycleEvent.runOnce plainListing, .settle 0 0] = earlier ++ later →
        Throughout (HealthCheckManager.step .plain 1) (fun state => state.running = true)
          (run (HealthCheckManager.step .plain 1) .new earlier) later →
        settlements .plain 1 (run (HealthCheckManager.step .plain 1) .new earlier) later <
          (run (HealthCheckManager.step .plain 1) .new earlier).outstanding :=
  orderly_throughout (by decide) _ ⟨fun _ _ => by decide +kernel, trivial, trivial⟩

end Tunnara.Planes
