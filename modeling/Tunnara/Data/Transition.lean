/-
# Runs of an event-driven machine

A machine is a state type, an event type and a total step function: an event that is not enabled
leaves the state as it is. A *guard* restricts which events a run may take in which states. An
invariant that a guarded step preserves holds in every state a guarded run reaches, and a fault
that is raised exactly by the steps outside the guard is absent from a run exactly when all its
steps are inside.
-/

import Mathlib.Logic.Basic
import Mathlib.Data.List.Basic
import Mathlib.Data.List.Induction

namespace Tunnara.Transition

universe u v

variable {σ : Type u} {ε : Type v}

def run (step : σ → ε → σ) (start : σ) (events : List ε) : σ :=
  events.foldl step start

@[simp]
theorem run_nil (step : σ → ε → σ) (start : σ) : run step start [] = start := rfl

@[simp]
theorem run_cons (step : σ → ε → σ) (start : σ) (event : ε) (events : List ε) :
    run step start (event :: events) = run step (step start event) events := rfl

theorem run_append (step : σ → ε → σ) (start : σ) (first second : List ε) :
    run step start (first ++ second) = run step (run step start first) second :=
  List.foldl_append ..

/-- Every step of the run meets the guard in the state it is taken in. -/
def Along (step : σ → ε → σ) (guard : σ → ε → Prop) : σ → List ε → Prop
  | _, [] => True
  | state, event :: events => guard state event ∧ Along step guard (step state event) events

@[simp]
theorem along_nil (step : σ → ε → σ) (guard : σ → ε → Prop) (start : σ) :
    Along step guard start [] := trivial

@[simp]
theorem along_cons (step : σ → ε → σ) (guard : σ → ε → Prop) (start : σ) (event : ε)
    (events : List ε) :
    Along step guard start (event :: events) ↔
      guard start event ∧ Along step guard (step start event) events := Iff.rfl

variable {step : σ → ε → σ} {guard : σ → ε → Prop}

theorem along_append {start : σ} {first second : List ε} :
    Along step guard start (first ++ second) ↔
      Along step guard start first ∧ Along step guard (run step start first) second := by
  induction first generalizing start with
  | nil => simp
  | cons event events ih => simp only [List.cons_append, along_cons, run_cons, ih, and_assoc]

variable {events : List ε}

theorem Along.mono {weaker : σ → ε → Prop}
    (hguard : ∀ state event, guard state event → weaker state event) {start : σ}
    (h : Along step guard start events) : Along step weaker start events := by
  induction events generalizing start with
  | nil => trivial
  | cons event events ih => exact ⟨hguard _ _ h.1, ih h.2⟩

theorem Along.and {other : σ → ε → Prop} {start : σ} (h : Along step guard start events)
    (hother : Along step other start events) :
    Along step (fun state event => guard state event ∧ other state event) start events := by
  induction events generalizing start with
  | nil => trivial
  | cons event events ih => exact ⟨⟨h.1, hother.1⟩, ih h.2 hother.2⟩

variable {inv : σ → Prop}

/-- Inside an invariant of all steps a guard may be replaced by what it implies there. -/
theorem Along.mono_of_invariant {weaker : σ → ε → Prop}
    (hguard : ∀ state event, inv state → guard state event → weaker state event)
    (hstep : ∀ state event, inv state → inv (step state event)) {start : σ}
    (h : Along step guard start events) (hstart : inv start) : Along step weaker start events := by
  induction events generalizing start with
  | nil => trivial
  | cons event events ih =>
    exact ⟨hguard start event hstart h.1, ih h.2 (hstep start event hstart)⟩

instance decidableAlong (step : σ → ε → σ) (guard : σ → ε → Prop)
    [∀ state event, Decidable (guard state event)] :
    ∀ (start : σ) (events : List ε), Decidable (Along step guard start events)
  | _, [] => isTrue trivial
  | state, event :: events =>
    haveI := decidableAlong step guard (step state event) events
    inferInstanceAs (Decidable (guard state event ∧ _))

/-- The states that a run reaches when each of its steps meets the guard. -/
inductive Reachable (step : σ → ε → σ) (guard : σ → ε → Prop) (start : σ → Prop) : σ → Prop
  | start {state : σ} (hstart : start state) : Reachable step guard start state
  | next {state : σ} (event : ε) (prior : Reachable step guard start state)
      (hguard : guard state event) : Reachable step guard start (step state event)

/-- The guard of an unrestricted run. -/
def Always (_state : σ) (_event : ε) : Prop := True

/-- The invariant rule: what holds at the start and survives every guarded step
holds in every state reached. -/
theorem Reachable.invariant {start : σ → Prop} (hstart : ∀ state, start state → inv state)
    (hstep : ∀ state event, inv state → guard state event → inv (step state event)) {state : σ}
    (hreach : Reachable step guard start state) : inv state := by
  induction hreach with
  | start h => exact hstart _ h
  | next event _ hguard ih => exact hstep _ event ih hguard

theorem Along.invariant
    (hstep : ∀ state event, inv state → guard state event → inv (step state event)) {start : σ}
    (halong : Along step guard start events) (hstart : inv start) :
    inv (run step start events) := by
  induction events generalizing start with
  | nil => exact hstart
  | cons event events ih => exact ih halong.2 (hstep start event hstart halong.1)

/-- What the steps inside a guard do while an invariant holds that they keep. -/
theorem Along.of_invariant {step : σ → ε → σ} {guard goal : σ → ε → Prop} {inv : σ → Prop}
    (hstep : ∀ state event, inv state → guard state event →
      goal state event ∧ inv (step state event))
    {start : σ} {events : List ε} (halong : Along step guard start events)
    (hstart : inv start) : Along step goal start events := by
  induction events generalizing start with
  | nil => trivial
  | cons event events ih =>
    obtain ⟨hgoal, hnext⟩ := hstep start event hstart halong.1
    exact ⟨hgoal, ih halong.2 hnext⟩

/-- The history rule: an invariant may speak of the events taken so far. -/
theorem run_history {step : σ → ε → σ} {start : σ} {inv : List ε → σ → Prop}
    (hstart : inv [] start) (hstep : ∀ events event, inv events (run step start events) →
      inv (events ++ [event]) (step (run step start events) event)) (events : List ε) :
    inv events (run step start events) := by
  induction events using List.reverseRecOn with
  | nil => exact hstart
  | append_singleton events event ih =>
    rw [run_append]
    exact hstep events event ih

/-- The origin rule: what a state of a run has and a step can only keep or make was there at the
start or was made by a step of the run. -/
theorem run_origin (has : σ → Prop) {made : σ → ε → Prop}
    (hstep : ∀ state event, has (step state event) → has state ∨ made state event) {start : σ}
    (h : has (run step start events)) :
    has start ∨ ∃ before event after, events = before ++ event :: after ∧
      made (run step start before) event := by
  induction events generalizing start with
  | nil => exact .inl h
  | cons event events ih =>
    rcases ih h with hfirst | ⟨before, later, after, rfl, hmade⟩
    · exact (hstep start event hfirst).imp_right fun hmade => ⟨[], event, events, rfl, hmade⟩
    · exact .inr ⟨event :: before, later, after, rfl, hmade⟩

/-- The property holds in every state of the run, the first and the last included. -/
def Throughout (step : σ → ε → σ) (inv : σ → Prop) : σ → List ε → Prop
  | state, [] => inv state
  | state, event :: events => inv state ∧ Throughout step inv (step state event) events

theorem Throughout.start {start : σ} (h : Throughout step inv start events) : inv start := by
  cases events with
  | nil => exact h
  | cons event events => exact h.1

theorem Throughout.last {start : σ} (h : Throughout step inv start events) :
    inv (run step start events) := by
  induction events generalizing start with
  | nil => exact h
  | cons event events ih => exact ih h.2

theorem Throughout.mono {weaker : σ → Prop} (himp : ∀ state, inv state → weaker state)
    {start : σ} (h : Throughout step inv start events) : Throughout step weaker start events := by
  induction events generalizing start with
  | nil => exact himp start h
  | cons event events ih => exact ⟨himp start h.1, ih h.2⟩

/-- The invariant rule for all states of one given run. -/
theorem Along.throughout
    (hstep : ∀ state event, inv state → guard state event → inv (step state event)) {start : σ}
    (halong : Along step guard start events) (hstart : inv start) :
    Throughout step inv start events := by
  induction events generalizing start with
  | nil => exact hstart
  | cons event events ih => exact ⟨hstart, ih halong.2 (hstep start event hstart halong.1)⟩

/-- The exact invariant rule: if the steps that keep a property are exactly those
inside the guard, it holds throughout a run exactly when every step is inside. -/
theorem throughout_iff_along
    (hstep : ∀ state event, inv state → (inv (step state event) ↔ guard state event)) {start : σ}
    (hstart : inv start) : Throughout step inv start events ↔ Along step guard start events := by
  induction events generalizing start with
  | nil => exact iff_of_true hstart trivial
  | cons event events ih =>
    by_cases hguard : guard start event
    · have hnext : inv (step start event) := (hstep start event hstart).2 hguard
      exact ⟨fun h => ⟨hguard, (ih hnext).1 h.2⟩, fun h => ⟨hstart, (ih hnext).2 h.2⟩⟩
    · have hnext : ¬ inv (step start event) := fun h => hguard ((hstep start event hstart).1 h)
      exact iff_of_false (fun h => hnext h.2.start) fun h => hguard h.1

/-- The exact rule for a property of the states and one of the steps together: `aux` is kept
as long as the property of the states holds. -/
theorem throughout_and_along_iff {step : σ → ε → σ} {aux inv : σ → Prop}
    {goal guard : σ → ε → Prop} (hstep : ∀ state event, aux state → inv state →
      (inv (step state event) ∧ goal state event ↔ guard state event))
    (haux : ∀ state event, aux state → inv state → aux (step state event)) {start : σ}
    {events : List ε} (hstart : aux start) (hinv : inv start) :
    Throughout step inv start events ∧ Along step goal start events ↔
      Along step guard start events := by
  induction events generalizing start with
  | nil => exact iff_of_true ⟨hinv, trivial⟩ trivial
  | cons event events ih =>
    have hnext := haux start event hstart hinv
    constructor
    · intro ⟨hthrough, halong⟩
      have hinv' := hthrough.2.start
      exact ⟨(hstep start event hstart hinv).1 ⟨hinv', halong.1⟩,
        (ih hnext hinv').1 ⟨hthrough.2, halong.2⟩⟩
    · intro hguard
      obtain ⟨hinv', hgoal⟩ := (hstep start event hstart hinv).2 hguard.1
      have hrest := (ih hnext hinv').2 hguard.2
      exact ⟨⟨hinv, hrest.1⟩, hgoal, hrest.2⟩

/-- Two properties of the steps that agree inside an invariant, and of which one keeps
it, hold along the same runs. -/
theorem along_iff_of_invariant {goal : σ → ε → Prop}
    (hiff : ∀ state event, inv state → (goal state event ↔ guard state event))
    (hstep : ∀ state event, inv state → guard state event → inv (step state event)) {start : σ}
    (hstart : inv start) : Along step goal start events ↔ Along step guard start events := by
  induction events generalizing start with
  | nil => exact Iff.rfl
  | cons event events ih =>
    rw [along_cons, along_cons, hiff start event hstart]
    exact and_congr_right fun hguard => ih (hstep start event hstart hguard)

variable {fault : σ → Prop}

section

variable (hstep : ∀ state event, fault (step state event) ↔ fault state ∨ ¬ guard state event)
include hstep

/-- The fault rule: if a fault never goes away and is raised by exactly the steps
outside the guard, a run ends with it exactly when it starts with it or leaves the
guard somewhere. -/
theorem fault_run_iff (start : σ) (events : List ε) :
    fault (run step start events) ↔ fault start ∨ ¬ Along step guard start events := by
  induction events generalizing start with
  | nil => simp
  | cons event events ih =>
    rw [run_cons, along_cons, ih, hstep, not_and_or, or_assoc]

/-- A run that starts without a fault is free of it exactly when every step meets
the guard. -/
theorem not_fault_iff_along {start : σ} (hstart : ¬ fault start) :
    ¬ fault (run step start events) ↔ Along step guard start events := by
  rw [fault_run_iff hstep]
  simp [hstart]

end

theorem along_always (step : σ → ε → σ) (start : σ) (events : List ε) :
    Along step Always start events := by
  induction events generalizing start with
  | nil => trivial
  | cons event events ih => exact ⟨trivial, ih _⟩

theorem fault_run (hpersist : ∀ state event, fault state → fault (step state event)) {start : σ}
    (hstart : fault start) (events : List ε) : fault (run step start events) := by
  induction events generalizing start with
  | nil => exact hstart
  | cons event events ih => exact ih (hpersist start event hstart)

/-- The invariant rule up to a fault that never goes away: whatever a faulty step
leaves, in a run that ends without the fault the invariant holds at the end. -/
theorem Along.invariant_of_not_fault {step : σ → ε → σ} {guard : σ → ε → Prop}
    {fault inv : σ → Prop} (hpersist : ∀ state event, fault state → fault (step state event))
    (hstep : ∀ state event, inv state → guard state event → ¬ fault (step state event) →
      inv (step state event))
    {start : σ} {events : List ε} (h : Along step guard start events) (hstart : inv start)
    (hend : ¬ fault (run step start events)) : inv (run step start events) := by
  induction events generalizing start with
  | nil => exact hstart
  | cons event events ih =>
    rw [run_cons] at hend ⊢
    have hfirst : ¬ fault (step start event) := fun hfault =>
      hend (fault_run hpersist hfault events)
    exact ih h.2 (hstep start event hstart h.1 hfirst) hend

end Tunnara.Transition
