/-
# Entries that wait and their timers

A pending request and a health probe each have a timer of their own that names
them, whatever ids the edges choose. So the timer of one entry is never the timer
of another, and an entry cannot wait for ever.
-/

import Tunnara.Relay.Moves

namespace Tunnara.Relay

open State Attempt Transition OrdMap

variable {env : Env}

/-- Every entry that waits has a running timer that names it; timers are numbered
by the clock. -/
structure TimersKept (state : State) : Prop where
  pending : ∀ requestId entry, state.pending.get? requestId = some entry →
    ∃ id, entry.timer = some id ∧ state.timers.get? id = some (.proxyRequest requestId)
  probes : ∀ probeId entry, state.healthProbes.get? probeId = some entry →
    ∃ id target, entry.timer = some id ∧ state.timers.get? id = some (.healthProbe probeId target)
  numbered : ∀ id timer, state.timers.get? id = some timer → id ≤ state.clock

theorem timersKept_initial : TimersKept initial where
  pending _ _ h := by cases h
  probes _ _ h := by cases h
  numbered _ _ h := by cases h

namespace TimersKept

variable {state : State}

theorem congr {next : State} (h : TimersKept state) (hpending : next.pending = state.pending)
    (hprobes : next.healthProbes = state.healthProbes) (htimers : next.timers = state.timers)
    (hclock : next.clock = state.clock) : TimersKept next where
  pending := by
    rw [hpending, htimers]
    exact h.pending
  probes := by
    rw [hprobes, htimers]
    exact h.probes
  numbered := by
    rw [htimers, hclock]
    exact h.numbered

theorem tick (h : TimersKept state) : TimersKept state.tick where
  pending := h.pending
  probes := h.probes
  numbered id timer htimer := Nat.le_succ_of_le (h.numbered id timer htimer)

theorem clear {next : State} (h : TimersKept state) {cleared : Option ℕ}
    (hpending : ∀ requestId entry, next.pending.get? requestId = some entry →
      state.pending.get? requestId = some entry ∧
        ∀ id, cleared = some id → state.timers.get? id ≠ some (.proxyRequest requestId))
    (hprobes : ∀ probeId entry, next.healthProbes.get? probeId = some entry →
      state.healthProbes.get? probeId = some entry ∧ ∀ id target, cleared = some id →
        state.timers.get? id ≠ some (.healthProbe probeId target))
    (htimers : next.timers = (state.clearTimeout cleared).timers)
    (hclock : next.clock = state.clock) : TimersKept next := by
  have hkept : ∀ {id timer}, state.timers.get? id = some timer → cleared ≠ some id →
      next.timers.get? id = some timer := by
    intro id timer htimer hne
    rw [htimers]
    cases cleared with
    | none => exact htimer
    | some other =>
      have hother : id ≠ other := fun heq => hne (congrArg some heq.symm)
      exact (get?_erase_of_ne _ hother).trans htimer
  have hshrunk : ∀ {id timer}, next.timers.get? id = some timer →
      state.timers.get? id = some timer := by
    intro id timer htimer
    rw [htimers] at htimer
    cases cleared with
    | none => exact htimer
    | some other => exact (get?_of_get?_erase htimer).2
  refine ⟨fun key entry hget => ?_, fun key entry hget => ?_, fun id timer htimer => ?_⟩
  · obtain ⟨hold, hnot⟩ := hpending key entry hget
    obtain ⟨own, hown, hrunning⟩ := h.pending key entry hold
    exact ⟨own, hown, hkept hrunning fun hcleared => hnot own hcleared hrunning⟩
  · obtain ⟨hold, hnot⟩ := hprobes key entry hget
    obtain ⟨own, target, hown, hrunning⟩ := h.probes key entry hold
    exact ⟨own, target, hown, hkept hrunning fun hcleared => hnot own target hcleared hrunning⟩
  · rw [hclock]
    exact h.numbered id timer (hshrunk htimer)

theorem dropPending (h : TimersKept state) {requestId : Key} {cleared : Option ℕ}
    (hcleared : ∀ id, cleared = some id → state.timers.get? id = some (.proxyRequest requestId)) :
    TimersKept ((state.clearTimeout cleared).dropPending requestId) := by
  refine h.clear (fun key entry hget => ?_) (fun key entry hget => ?_) rfl ?_
  · cases cleared <;>
    · obtain ⟨hne, hold⟩ := get?_of_get?_erase hget
      refine ⟨hold, fun id hid htimer => ?_⟩
      rw [hcleared id hid] at htimer
      cases htimer
      exact hne rfl
  · refine ⟨by cases cleared <;> exact hget, fun id target hid htimer => ?_⟩
    rw [hcleared id hid] at htimer
    cases htimer
  · cases cleared <;> rfl

theorem dropProbe (h : TimersKept state) {probeId : Key} {cleared : Option ℕ}
    (hcleared : ∀ id, cleared = some id →
      ∃ target, state.timers.get? id = some (.healthProbe probeId target)) :
    TimersKept ((state.clearTimeout cleared).dropProbe probeId) := by
  refine h.clear (fun key entry hget => ?_) (fun key entry hget => ?_) rfl ?_
  · refine ⟨by cases cleared <;> exact hget, fun id hid htimer => ?_⟩
    obtain ⟨target, hnames⟩ := hcleared id hid
    rw [hnames] at htimer
    cases htimer
  · cases cleared <;>
    · obtain ⟨hne, hold⟩ := get?_of_get?_erase hget
      refine ⟨hold, fun id target hid htimer => ?_⟩
      obtain ⟨target', hnames⟩ := hcleared id hid
      rw [hnames] at htimer
      cases htimer
      exact hne rfl
  · cases cleared <;> rfl

end TimersKept

namespace TimersKept

theorem keep {state next : State}
    (hfree : ∀ id timer, state.timers.get? id = some timer → id < state.clock) {timer : Timer}
    (htimers : next.timers = state.timers.set state.clock timer) {id : ℕ} {running : Timer}
    (hrunning : state.timers.get? id = some running) : next.timers.get? id = some running := by
  have hne : id ≠ state.clock := (hfree id running hrunning).ne
  rw [htimers, get?_set_of_ne _ hne, hrunning]

theorem addPending {start : State} (h : TimersKept start)
    (hfree : ∀ id timer, start.timers.get? id = some timer → id < start.clock)
    (id : ℕ) (requestId : Key) (edge : ℕ) (agentId : String) (via : ℕ) :
    TimersKept ((start.forgetLookup id).addPending requestId edge agentId via) := by
  have hkeep : ∀ {id timer}, start.timers.get? id = some timer →
      ((start.forgetLookup id).addPending requestId edge agentId via).timers.get? id =
        some timer := fun htimer => keep hfree rfl htimer
  refine ⟨fun key entry hget => ?_, fun key entry hget => ?_, fun other timer hother => ?_⟩
  · have hset : (start.pending.set requestId
        { edge, agentId, timer := some start.clock, via }).get? key = some entry := hget
    rw [get?_set] at hset
    split_ifs at hset with hkey
    · cases hset
      refine ⟨start.clock, rfl, ?_⟩
      rw [hkey]
      exact get?_set_self _ _ _
    · obtain ⟨own, hown, hrunning⟩ := h.pending key entry hset
      exact ⟨own, hown, hkeep hrunning⟩
  · obtain ⟨own, target, hown, hrunning⟩ := h.probes key entry hget
    exact ⟨own, target, hown, hkeep hrunning⟩
  · have hset : (start.timers.set start.clock (.proxyRequest requestId)).get? other =
        some timer := hother
    rw [get?_set] at hset
    split_ifs at hset with hid
    · exact hid.le
    · exact h.numbered other timer hset

theorem addProbe {start : State} (h : TimersKept start)
    (hfree : ∀ id timer, start.timers.get? id = some timer → id < start.clock)
    (id : ℕ) (probeId : Key) (target : Option Json) (edge : ℕ) (agentId : String) (via : ℕ) :
    TimersKept ((start.forgetLookup id).addProbe probeId target edge agentId via) := by
  have hkeep : ∀ {id timer}, start.timers.get? id = some timer →
      ((start.forgetLookup id).addProbe probeId target edge agentId via).timers.get? id =
        some timer := fun htimer => keep hfree rfl htimer
  refine ⟨fun key entry hget => ?_, fun key entry hget => ?_, fun other timer hother => ?_⟩
  · obtain ⟨own, hown, hrunning⟩ := h.pending key entry hget
    exact ⟨own, hown, hkeep hrunning⟩
  · have hset : (start.healthProbes.set probeId
        { edge, agentId, timer := some start.clock, via }).get? key = some entry := hget
    rw [get?_set] at hset
    split_ifs at hset with hkey
    · cases hset
      refine ⟨start.clock, target, rfl, ?_⟩
      rw [hkey]
      exact get?_set_self _ _ _
    · obtain ⟨own, target', hown, hrunning⟩ := h.probes key entry hset
      exact ⟨own, target', hown, hkeep hrunning⟩
  · have hset : (start.timers.set start.clock (.healthProbe probeId target)).get? other =
        some timer := hother
    rw [get?_set] at hset
    split_ifs at hset with hid
    · exact hid.le
    · exact h.numbered other timer hset

theorem move {start state next : State} {event : Event} (h : TimersKept state)
    (hstart : TimersKept start)
    (hfree : ∀ id timer, start.timers.get? id = some timer → id < start.clock)
    (hmove : Move env start event state next) : TimersKept next := by
  cases hmove with
  | clock => exact h.tick
  | register =>
    unfold State.register
    dsimp only
    split <;> exact h.congr rfl rfl rfl rfl
  | loseAgent =>
    unfold State.lose leave goOffline
    split
    · exact h.congr rfl rfl rfl rfl
    · dsimp only
      split
      · split <;> exact h.congr rfl rfl rfl rfl
      · exact h.congr rfl rfl rfl rfl
  | tellEdge | refuse =>
    exact h.congr (pending_told _ _ _) (healthProbes_told _ _ _) (timers_told _ _ _)
      (clock_told _ _ _)
  | loseEdge =>
    unfold State.loseEdge
    split <;> exact h.congr rfl rfl rfl rfl
  | addPending => exact hstart.addPending hfree _ _ _ _ _
  | addProbe => exact hstart.addProbe hfree _ _ _ _ _ _
  | @answer _ requestId entry payload cleared hentry _ _ _ hcleared =>
    have htold : TimersKept ((state.told entry.edge payload).closeEdge entry.edge) :=
      h.congr (pending_told _ _ _) (healthProbes_told _ _ _) (timers_told _ _ _)
        (clock_told _ _ _)
    apply htold.dropPending
    intro id hid
    change (state.told entry.edge payload).timers.get? id = _
    rw [timers_told]
    rcases hcleared with hown | ⟨fired, timer, -, htimer, hnames, hfired⟩
    · obtain ⟨own, howner, hrunning⟩ := h.pending requestId entry hentry
      rw [hown, howner] at hid
      cases hid
      exact hrunning
    · rw [hfired] at hid
      cases hid
      rw [htimer, hnames]
  | @dropProbe _ probeId entry cleared hentry hcleared =>
    apply h.dropProbe
    intro id hid
    rcases hcleared with hown | ⟨fired, timer, -, htimer, ⟨target, hnames⟩, hfired⟩
    · obtain ⟨own, target, howner, hrunning⟩ := h.probes probeId entry hentry
      rw [hown, howner] at hid
      cases hid
      exact ⟨target, hrunning⟩
    · rw [hfired] at hid
      cases hid
      exact ⟨target, by rw [htimer, hnames]⟩
  | @idleTimer id timer _ htimer hgone =>
    refine h.clear (fun key entry hget => ⟨hget, fun other hother hnames => ?_⟩)
      (fun key entry hget => ⟨hget, fun other target hother hnames => ?_⟩) rfl rfl
    · cases hother
      rw [htimer] at hnames
      cases hnames
      have hfound : start.pending.get? key = some entry := hget
      rw [hgone] at hfound
      cases hfound
    · cases hother
      rw [htimer] at hnames
      cases hnames
      have hfound : start.healthProbes.get? key = some entry := hget
      rw [hgone] at hfound
      cases hfound
  | _ => exact h.congr rfl rfl rfl rfl

theorem step {state : State} {event : Event} (h : TimersKept state)
    (halive : ¬ (step env state event).Crashed) : TimersKept (step env state event) := by
  have hfree : ∀ id timer, state.tick.timers.get? id = some timer → id < state.tick.clock :=
    fun id timer htimer => Nat.lt_succ_of_le (h.numbered id timer htimer)
  have hmoves := moves_of_step halive
  generalize Relay.step env state event = next at hmoves
  induction hmoves with
  | refl => exact h.tick
  | tail _ hmove ih => exact ih.move h.tick hfree hmove

end TimersKept

theorem timersKept_run {events : List Event} (halive : ¬ (run (step env) initial events).Crashed) :
    TimersKept (run (step env) initial events) :=
  invariant_of_alive (fun _ _ h _ halive => h.step halive)
    (along_always (step env) initial events) timersKept_initial halive

/-- **As long as the Relay runs, whatever waits has a running timer of its own.** -/
theorem timersKept_throughout (env : Env) (events : List Event) :
    Throughout (step env) (fun state => state.Crashed ∨ TimersKept state) initial events := by
  apply (along_always (step env) initial events).throughout _ (.inr timersKept_initial)
  rintro state event (hcrashed | hkept) -
  · left
    rwa [step, if_pos hcrashed]
  · by_cases hnext : (step env state event).Crashed
    · exact .inl hnext
    · exact .inr (hkept.step hnext)

end Tunnara.Relay
