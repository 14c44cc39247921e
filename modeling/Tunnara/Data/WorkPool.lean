/-
# Workers that drain a shared queue

A fixed number of workers take jobs from one queue and wait for each to settle before they take
the next. A job that cannot be begun stops its worker, and with it the pool is given up: the other
workers go on, but nobody waits for them.
-/

import Mathlib.Data.List.Basic
import Mathlib.Data.List.Perm.Basic
import Mathlib.Logic.Function.Iterate

namespace Tunnara

universe u

structure WorkPool (α : Type u) where
  (jobs queue flying done : List α)
  /-- The workers that have neither finished nor failed. -/
  workers : ℕ
  failed : Bool

namespace WorkPool

variable {α : Type u}

section Operations

-- whether a job can be begun
variable (begins : α → Bool)

/-- A worker takes the next job, or finishes. -/
def take (pool : WorkPool α) : WorkPool α :=
  match pool.queue with
  | [] => { pool with workers := pool.workers - 1 }
  | job :: rest =>
    if begins job then { pool with queue := rest, flying := pool.flying ++ [job] }
    else { pool with queue := rest, workers := pool.workers - 1, failed := true }

/-- As many workers as there are jobs, at most `limit`; each takes its first job. -/
def start (limit : ℕ) (jobs : List α) : WorkPool α :=
  (take begins)^[min limit jobs.length]
    { jobs, queue := jobs, flying := [], done := [], workers := min limit jobs.length,
      failed := false }

/-- The job at the index settles, and its worker goes on. -/
def complete (pool : WorkPool α) (index : ℕ) : WorkPool α :=
  match pool.flying[index]? with
  | none => pool
  | some job =>
    take begins { pool with flying := pool.flying.eraseIdx index, done := pool.done ++ [job] }

end Operations

/-- All workers have finished, or one has failed: nobody waits for the pool any more. -/
def settled (pool : WorkPool α) : Bool := pool.failed || pool.workers = 0

/-- The jobs that are not done. -/
def outstanding (pool : WorkPool α) : ℕ := pool.queue.length + pool.flying.length

/-- A pool whose jobs can all be begun. -/
structure Sound (begins : α → Bool) (limit : ℕ) (pool : WorkPool α) : Prop where
  begins : ∀ job ∈ pool.queue, begins job = true
  sane : pool.failed = false
  waiting : pool.workers = pool.flying.length
  bounded : pool.flying.length ≤ limit
  busy : pool.flying = [] → pool.queue = []
  jobs : (pool.done ++ (pool.flying ++ pool.queue)).Perm pool.jobs

variable {begins : α → Bool} {limit : ℕ} {pool : WorkPool α} {jobs : List α} {index : ℕ}

theorem Sound.settled_iff (h : Sound begins limit pool) :
    pool.settled = true ↔ pool.flying = [] := by
  unfold settled
  rw [h.sane, h.waiting, Bool.false_or, decide_eq_true_eq, List.length_eq_zero_iff]

theorem Sound.done_perm (h : Sound begins limit pool) (hsettled : pool.settled = true) :
    pool.done.Perm pool.jobs := by
  have hflying := h.settled_iff.1 hsettled
  have hjobs := h.jobs
  rwa [hflying, h.busy hflying, List.append_nil, List.append_nil] at hjobs

/-- The workers take their first jobs in the order of the queue. -/
theorem iterate_take (hbegins : ∀ job ∈ jobs, begins job = true) {workers count : ℕ}
    (hcount : count ≤ jobs.length) :
    (take begins)^[count] ⟨jobs, jobs, [], [], workers, false⟩ =
      ⟨jobs, jobs.drop count, jobs.take count, [], workers, false⟩ := by
  induction count with
  | zero => rfl
  | succ count ih =>
    have hlt : count < jobs.length := hcount
    rw [Function.iterate_succ_apply', ih (Nat.le_of_lt hlt)]
    have hdrop : jobs.drop count = jobs[count] :: jobs.drop (count + 1) :=
      List.drop_eq_getElem_cons hlt
    unfold take
    rw [hdrop]
    dsimp only
    rw [if_pos (hbegins _ (List.getElem_mem hlt)), List.take_append_getElem hlt]

theorem start_eq (hbegins : ∀ job ∈ jobs, begins job = true) : start begins limit jobs =
    ⟨jobs, jobs.drop (min limit jobs.length), jobs.take (min limit jobs.length), [],
      min limit jobs.length, false⟩ :=
  iterate_take hbegins (Nat.min_le_right _ _)

theorem sound_start (hlimit : 1 ≤ limit) (hbegins : ∀ job ∈ jobs, begins job = true) :
    Sound begins limit (start begins limit jobs) := by
  rw [start_eq hbegins]
  have hlength : (jobs.take (min limit jobs.length)).length = min limit jobs.length := by
    rw [List.length_take, Nat.min_eq_left (Nat.min_le_right _ _)]
  constructor
  case begins => exact fun job hjob => hbegins job (List.mem_of_mem_drop hjob)
  case sane => rfl
  case waiting => exact hlength.symm
  case bounded => exact Nat.le_trans (Nat.le_of_eq hlength) (Nat.min_le_left _ _)
  case busy =>
    intro hnone
    have hzero : min limit jobs.length = 0 := by
      rw [← hlength, List.length_eq_zero_iff]
      exact hnone
    have hempty : jobs = [] := List.length_eq_zero_iff.1 (by omega)
    rw [hempty, List.drop_nil]
  case jobs =>
    change (List.take _ jobs ++ List.drop _ jobs).Perm jobs
    rw [List.take_append_drop]

theorem jobs_take : (take begins pool).jobs = pool.jobs := by
  unfold take
  split
  · rfl
  · split_ifs <;> rfl

theorem jobs_complete : (complete begins pool index).jobs = pool.jobs := by
  unfold complete
  split
  · rfl
  · exact jobs_take

theorem sound_complete (h : Sound begins limit pool) (index : ℕ) :
    Sound begins limit (pool.complete begins index) := by
  unfold complete
  split
  · exact h
  rename_i job hjob
  obtain ⟨hlt, rfl⟩ := List.getElem?_eq_some_iff.1 hjob
  have hcount : (pool.flying.eraseIdx index).length + 1 = pool.flying.length := by
    rw [List.length_eraseIdx_of_lt hlt]
    omega
  have hperm : (pool.flying[index] :: pool.flying.eraseIdx index).Perm pool.flying :=
    List.getElem_cons_eraseIdx_perm hlt
  have hbounded := h.bounded
  unfold take
  cases hqueue : pool.queue with
  | nil =>
    constructor
    case begins => exact nofun
    case sane => exact h.sane
    case waiting =>
      change pool.workers - 1 = (pool.flying.eraseIdx index).length
      rw [h.waiting]
      omega
    case bounded =>
      change (pool.flying.eraseIdx index).length ≤ limit
      omega
    case busy => exact fun _ => rfl
    case jobs =>
      refine List.Perm.trans ?_ h.jobs
      rw [hqueue]
      rw [List.append_assoc, List.singleton_append, List.append_nil, List.append_nil]
      exact hperm.append_left _
  | cons next rest =>
    dsimp only
    rw [if_pos (h.begins next (by rw [hqueue]; exact List.mem_cons_self))]
    constructor
    case begins =>
      exact fun job hjob => h.begins job (by rw [hqueue]; exact List.mem_cons_of_mem _ hjob)
    case sane => exact h.sane
    case waiting =>
      rw [h.waiting, List.length_append, List.length_singleton]
      omega
    case bounded =>
      rw [List.length_append, List.length_singleton]
      omega
    case busy => exact fun hnone => absurd hnone (by simp)
    case jobs =>
      refine List.Perm.trans ?_ h.jobs
      rw [hqueue]
      rw [List.append_assoc, List.append_assoc, List.singleton_append, List.singleton_append]
      exact (hperm.append_right _).append_left _

theorem outstanding_complete (hindex : index < pool.flying.length) :
    (complete begins pool index).outstanding + 1 ≤ pool.outstanding := by
  have hcount : (pool.flying.eraseIdx index).length + 1 = pool.flying.length := by
    rw [List.length_eraseIdx_of_lt hindex]
    omega
  unfold complete
  rw [List.getElem?_eq_getElem hindex]
  unfold take outstanding
  cases hqueue : pool.queue with
  | nil =>
    dsimp only
    omega
  | cons next rest =>
    dsimp only
    split_ifs
    · dsimp only
      rw [List.length_append, List.length_singleton, List.length_cons]
      omega
    · dsimp only
      rw [List.length_cons]
      omega

end WorkPool

end Tunnara
