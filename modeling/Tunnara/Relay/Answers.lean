/-
# Every proxied request is answered once

A request that an edge sent waits for its route. Then it is refused at once, or entered with a
timer, and waits until the timer fires, its agent disconnects or its agent answers. Whatever
happens afterwards, its edge is told nothing else. A process that has ended keeps no edge connected.
-/

import Tunnara.Relay.Isolation
import Tunnara.Relay.Requests
import Tunnara.Relay.Supersede

namespace Tunnara.Relay

open State Attempt Transition OrdMap

variable {env : Env} {state next : State}

/-- The timer fires, a connection of the agent closes, or the agent answers. -/
inductive Triggers (env : Env) (state : State) (key : Key) (entry : Entry) (timer : ℕ) :
    Event → Prop
  | timeout : Triggers env state key entry timer (.timerFired timer)
  | disconnect {connection : ℕ} {agent : AgentConnection}
      (hagent : state.agentConns.get? connection = some agent)
      (hid : agent.agentId = some entry.agentId) (hopen : agent.gone = false) :
      Triggers env state key entry timer (.agentClose connection)
  | reply {connection : ℕ} {agent : AgentConnection} {chunk : List UInt8} {frame : Json}
      (hagent : state.agentConns.get? connection = some agent)
      (hof : IsOf state connection entry.agentId) (hopen : agent.framed.destroyed = false)
      (hframe : .frame frame ∈ (drain env.codec (agent.framed.buffer ++ chunk)).1)
      (hanswer : isAnswer frame = true)
      (hid : ∀ identity, Key.of identity (frame.get? "requestId") = key) :
      Triggers env state key entry timer (.agentData connection chunk)

/-- No entry waits under the key. -/
def Cleared (key : Key) (state : State) : Prop := state.pending.get? key = none

variable {timer connection : ℕ} {key : Key} {entry : Entry}

theorem spent_of_timerFired {running : Timer} (halive : ¬ state.Crashed)
    (hrunning : state.timers.get? timer = some running) :
    (step env state (.timerFired timer)).timers.get? timer = none := by
  have hfound : state.tick.timers.get? timer = some running := hrunning
  rw [step, if_neg halive, handle, hfound]
  have hkeep : Keeps (fun state => state.timers.get? timer = none) (fun _ => True)
      (onTimer env running) := by
    have hsend : ∀ {edge payload}, Keeps (fun state => state.timers.get? timer = none)
        (fun _ => True) (sendEdge env edge payload) := by
      intro edge payload
      apply keeps_sendEdge
      intro state conn effect h _ _ _
      unfold edgeEffect
      split <;> exact h
    apply Keeps.get_bind
    intro read
    cases running with
    | proxyRequest key =>
      dsimp only
      cases read.pending.get? key with
      | none => exact keeps_pure
      | some entry =>
        have hdone : Keeps (fun state => state.timers.get? timer = none) (fun _ => True)
            (modify fun state =>
              ((state.closeEdge entry.edge).dropPending key).setPendingGauge : Handler) :=
          keeps_modify fun _ h _ => h
        exact (hsend.mono fun _ _ => trivial).bind fun _ => hdone
    | healthProbe key target =>
      dsimp only
      cases read.healthProbes.get? key with
      | none => exact keeps_pure
      | some entry =>
        have hdone : Keeps (fun state => state.timers.get? timer = none) (fun _ => True)
            (modify fun state => (state.closeEdge entry.edge).dropProbe key : Handler) :=
          keeps_modify fun _ h _ => h
        exact (hsend.mono fun _ _ => trivial).bind fun _ => hdone
  exact keeps_callback (fun _ _ h => h) hkeep (get?_erase_self _ _) trivial

theorem cleared_of_agentClose {agent : AgentConnection}
    (hentry : state.pending.get? key = some entry)
    (hagent : state.agentConns.get? connection = some agent)
    (hid : agent.agentId = some entry.agentId) (hopen : agent.gone = false)
    (halive : ¬ (step env state (.agentClose connection)).Crashed) :
    Cleared key (step env state (.agentClose connection)) := by
  have hbefore : ¬ state.Crashed := fun hcrashed => halive (crashed_step hcrashed _)
  have hfound : state.tick.agentConns.get? connection = some agent := hagent
  have hstep : step env state (.agentClose connection) =
      callback (onAgentClose env connection agent.agentId) (state.tick.endAgent connection) := by
    rw [step, if_neg hbefore, handle, withAgent, hfound]
    simp only [hopen, Bool.not_false, if_true]
  rw [hstep] at halive ⊢
  rw [hid] at halive ⊢
  have hexec : exec (onAgentClose env connection (some entry.agentId))
      (state.tick.endAgent connection) = exec (failEntries env entry.agentId
        ((state.tick.endAgent connection).leave env connection entry.agentId))
        ((state.tick.endAgent connection).leave env connection entry.agentId) := by
    rw [onAgentClose, exec_bind, exec_modify]
    rfl
  have hstill : ((state.tick.endAgent connection).leave env connection
      entry.agentId).pending.get? key = some entry := by
    have hsame := (sameTraffic_lose env state.tick connection (some entry.agentId)).pending
    exact (congrArg (OrdMap.get? · key) hsame).trans hentry
  have hsettles := settles_pending env hstill rfl
  have hcallback : callback (onAgentClose env connection (some entry.agentId))
      (state.tick.endAgent connection) = callback (failEntries env entry.agentId
        ((state.tick.endAgent connection).leave env connection entry.agentId))
        ((state.tick.endAgent connection).leave env connection entry.agentId) := by
    rw [callback, callback, hexec]
  rw [hcallback] at halive ⊢
  exact settled_callback hsettles halive

theorem voidAsync_onAgentFrame_answer {agentId : String} {frame : Json}
    (hanswer : isAnswer frame = true)
    (hid : ∀ identity, Key.of identity (frame.get? "requestId") = key)
    (hroute : ∀ entry, state.pending.get? key = some entry → entry.agentId = agentId) :
    voidAsync (onAgentFrame env agentId frame) state =
      voidAsync (match state.pending.get? key with
        | none => pure ()
        | some entry => do
          modify fun state => state.clearTimeout entry.timer
          sendEdge env entry.edge frame
          modify fun state =>
            ((state.closeEdge entry.edge).dropPending key).setPendingGauge : Handler) state := by
  have hnull : frame ≠ .null := by
    rintro rfl
    cases hanswer
  have hdispatch : onAgentFrame env agentId frame = onProxyResponse env agentId frame := by
    rw [onAgentFrame_of_ne_null env hnull, dispatchAgentFrame]
    rcases Bool.or_eq_true _ _ ▸ hanswer with h | h
    · have hother := hasType_other h
      simp [h, hother]
    · have hother := hasType_other h
      simp [h, hother]
  rw [voidAsync, voidAsync, hdispatch, onProxyResponse, exec_bind, exec_get]
  dsimp only
  rw [hid]
  cases hentry : state.pending.get? key with
  | none => rfl
  | some entry =>
    dsimp only
    rw [if_neg (not_not.2 (hroute entry hentry))]

theorem cleared_of_onAgentFrame {agentId : String} {frame : Json} (hanswer : isAnswer frame = true)
    (hid : ∀ identity, Key.of identity (frame.get? "requestId") = key)
    (hroute : ∀ entry, state.pending.get? key = some entry → entry.agentId = agentId)
    (halive : ¬ (voidAsync (onAgentFrame env agentId frame) state).Crashed) :
    Cleared key (voidAsync (onAgentFrame env agentId frame) state) := by
  rw [voidAsync_onAgentFrame_answer hanswer hid hroute] at halive ⊢
  cases hentry : state.pending.get? key with
  | none => exact hentry
  | some entry =>
    rw [hentry] at halive
    have hdrop : Settles (Cleared key) (modify fun state =>
        ((state.closeEdge entry.edge).dropPending key).setPendingGauge : Handler) :=
      settles_modify fun state => get?_erase_self _ key
    exact settled_voidAsync (settles_bind fun _ => settles_bind fun _ => hdrop) halive

theorem crashed_agentSignals {signals : List Signal} (h : state.Crashed) :
    (run (agentSignal env connection) state signals).Crashed :=
  fault_run (fun state signal hcrashed =>
    (crashed_agentSignal env connection state signal).2 (.inl hcrashed)) h signals

theorem cleared_of_reply {agent : AgentConnection} {chunk : List UInt8} {frame : Json}
    (hentry : state.pending.get? key = some entry)
    (hagent : state.agentConns.get? connection = some agent)
    (hof : IsOf state connection entry.agentId) (hopen : agent.framed.destroyed = false)
    (hframe : .frame frame ∈ (drain env.codec (agent.framed.buffer ++ chunk)).1)
    (hanswer : isAnswer frame = true)
    (hid : ∀ identity, Key.of identity (frame.get? "requestId") = key)
    (halive : ¬ (step env state (.agentData connection chunk)).Crashed) :
    Cleared key (step env state (.agentData connection chunk)) := by
  have hbefore : ¬ state.Crashed := fun hcrashed => halive (crashed_step hcrashed _)
  have hfound : state.tick.agentConns.get? connection = some agent := hagent
  obtain ⟨before, after, hsignals⟩ := List.append_of_mem hframe
  have hstep : step env state (.agentData connection chunk) =
      run (agentSignal env connection) (state.tick.keepAgentBytes connection
        (drain env.codec (agent.framed.buffer ++ chunk)).2) (before ++ .frame frame :: after) := by
    rw [step, if_neg hbefore, handle, withAgent, hfound, ← hsignals]
    simp only [hopen, Bool.not_false, if_true]
  rw [hstep, run_append, run_cons] at halive ⊢
  -- up to the answer only entries of the agent went away
  have hread : Isolated connection entry.agentId state (run (agentSignal env connection)
      (state.tick.keepAgentBytes connection
        (drain env.codec (agent.framed.buffer ++ chunk)).2) before) :=
    isolated_agentSignals env hof before
      ((Isolated.refl connection entry.agentId state).tick.modifyAgent _ fun _ => rfl)
  generalize run (agentSignal env connection) (state.tick.keepAgentBytes connection
    (drain env.codec (agent.framed.buffer ++ chunk)).2) before = mid at hread halive ⊢
  have hmid : ¬ (agentSignal env connection mid (.frame frame)).Crashed :=
    fun hcrashed => halive (crashed_agentSignals hcrashed)
  have hofMid : IsOf mid.tick connection entry.agentId := (hread.identity connection).trans hof
  obtain ⟨now, hnow, hidentity⟩ := Option.map_eq_some_iff.1 hofMid
  have hphase : now.phase = .ready := congrArg Prod.fst hidentity
  have howner : now.agentId = some entry.agentId := congrArg Prod.snd hidentity
  have hsignal : agentSignal env connection mid (.frame frame) =
      voidAsync (onAgentFrame env entry.agentId frame) mid.tick := by
    rw [agentSignal]
    rw [hnow]
    dsimp only
    rw [hphase, howner]
  have hcleared : Cleared key (agentSignal env connection mid (.frame frame)) := by
    rw [hsignal] at hmid ⊢
    apply cleared_of_onAgentFrame hanswer hid ?_ hmid
    intro found hfound
    have hold := hread.pending.found key found hfound
    rw [hentry] at hold
    cases hold
    rfl
  -- what follows in the chunk enters nothing
  have hofAfter : IsOf (agentSignal env connection mid (.frame frame)) connection
      entry.agentId := by
    have hsame := (isolated_agentSignal env hof hread (.frame frame)).identity connection
    exact hsame.trans hof
  have hrest := isolated_agentSignals env hofAfter after (Isolated.refl connection entry.agentId _)
  apply Option.eq_none_iff_forall_ne_some.2
  intro found hfound
  have hold := hrest.pending.found key found hfound
  rw [hcleared] at hold
  cases hold

theorem done_of_triggers {event : Event} (h : Accounted state) (hfresh : FreshIds env state event)
    (halive : ¬ (step env state event).Crashed) (htimer : entry.timer = some timer)
    (hwaiting : Waiting state key entry timer)
    (htriggers : Triggers env state key entry timer event) :
    Done (step env state event) key entry.edge timer := by
  apply (waiting_step h hfresh halive htimer hwaiting).resolve_left
  intro hstill
  have hbefore : ¬ state.Crashed := fun hcrashed => halive (crashed_step hcrashed _)
  cases htriggers with
  | timeout =>
    have hspent : (step env state (.timerFired timer)).timers.get? timer = none :=
      spent_of_timerFired hbefore hwaiting.running
    rw [hstill.running] at hspent
    cases hspent
  | disconnect hagent hid hopen =>
    have hcleared := cleared_of_agentClose hwaiting.entered hagent hid hopen halive
    rw [Cleared, hstill.entered] at hcleared
    cases hcleared
  | reply hagent hof hopen hframe hanswer hid =>
    have hcleared := cleared_of_reply hwaiting.entered hagent hof hopen hframe hanswer hid halive
    rw [Cleared, hstill.entered] at hcleared
    cases hcleared

theorem resolved_proxyRequest {id : ℕ} {lookup : Lookup} {route : Route} (h : Accounted state)
    (halive : ¬ (step env state (.routeResolved id route)).Crashed)
    (hlookup : state.lookups.get? id = some lookup) (hkind : lookup.kind = .proxyRequest) :
    ToldOnce (step env state (.routeResolved id route)) lookup.edge
      (lookup.frame.get? "requestId") ∨
    ∃ entry timer, entry.edge = lookup.edge ∧ entry.timer = some timer ∧
      Waiting (step env state (.routeResolved id route))
        (keyOrFresh env lookup "requestId" state.tick) entry timer := by
  have hbefore : ¬ state.Crashed := fun hcrashed => halive (crashed_step hcrashed _)
  rw [step_routeResolved env hbefore hlookup, onRoute, hkind] at halive ⊢
  unfold voidAsync at halive ⊢
  cases hexec : exec (proxyRequest env lookup route) (state.tick.forgetLookup id) with
  | mk result last =>
    rw [hexec] at halive
    cases result with
    | error error => exact absurd crashed_raise halive
    | ok a =>
      rcases proxyRequest_cases hexec with hcrashed | ⟨status, message, hcan, rfl⟩ |
        ⟨tunnel, target, connection, hto, -, hsend⟩
      · exact absurd hcrashed halive
      · have hthere : (state.tick.forgetLookup id).edgeConns.get? lookup.edge ≠ none :=
          h.asked id lookup hlookup
        have htold := @toldOnce_told (state.tick.forgetLookup id) _ _ h.finished hthere hcan
          (isAnswer_proxyErrorFrame (lookup.frame.get? "requestId") status message)
        rw [requestId_proxyErrorFrame] at htold
        exact .inl htold
      · right
        have hsame := sameTraffic_of_exec_sendAgent hsend
        refine ⟨⟨lookup.edge, target.agentId, some state.tick.clock, connection⟩,
          state.tick.clock, rfl, rfl, ?_, ?_⟩
        · rw [hsame.pending]
          exact get?_set_self _ _ _
        · rw [hsame.timers]
          exact get?_set_self _ _ _

section Runs

variable {events : List Event} (h : Accounted state)
  (hfresh : Along (step env) (FreshIds env) state events)
  (halive : ¬ (run (step env) state events).Crashed)

theorem alive_of_run {state : State} {events : List Event}
    (halive : ¬ (run (step env) state events).Crashed) : ¬ state.Crashed := by
  intro hcrashed
  have hpersist : ∀ (state : State) (event : Event), state.Crashed →
      (step env state event).Crashed := fun _ event h => crashed_step h event
  exact halive (fault_run hpersist hcrashed events)

include h hfresh halive

theorem accounted_run : Accounted (run (step env) state events) :=
  invariant_of_alive (fun _ _ h hfresh halive => accounted_step h hfresh halive) hfresh h halive

theorem toldOnce_run {edge : ℕ} {requestId : Option Json} (htold : ToldOnce state edge requestId) :
    ToldOnce (run (step env) state events) edge requestId := by
  induction events generalizing state with
  | nil => exact htold
  | cons event rest ih =>
    have hstep : ¬ (step env state event).Crashed := alive_of_run halive
    exact ih (accounted_step h hfresh.1 hstep) hfresh.2 halive
      (toldOnce_step h hfresh.1 hstep htold)

theorem clock_run : state.clock ≤ (run (step env) state events).clock := by
  induction events generalizing state with
  | nil => exact le_rfl
  | cons event rest ih =>
    have hstep : ¬ (step env state event).Crashed := alive_of_run halive
    obtain ⟨last, hlast, -, -, hclock⟩ := step_chain h hfresh.1 hstep
    have hnext : state.clock ≤ (step env state event).clock := by
      rw [hlast]
      exact hclock.le
    exact hnext.trans (ih (accounted_step h hfresh.1 hstep) hfresh.2 halive)

theorem done_run {edge : ℕ} (hold : timer ≤ state.clock) (hdone : Done state key edge timer) :
    Done (run (step env) state events) key edge timer := by
  induction events generalizing state with
  | nil => exact hdone
  | cons event rest ih =>
    have hstep : ¬ (step env state event).Crashed := alive_of_run halive
    obtain ⟨last, hlast, -, -, hclock⟩ := step_chain h hfresh.1 hstep
    have hlater : timer ≤ (step env state event).clock := by
      rw [hlast]
      exact hold.trans hclock.le
    exact ih (accounted_step h hfresh.1 hstep) hfresh.2 halive hlater
      (done_step h hfresh.1 hstep hold hdone)

theorem waiting_run (htimer : entry.timer = some timer) (hwaiting : Waiting state key entry timer) :
    Waiting (run (step env) state events) key entry timer ∨
      Done (run (step env) state events) key entry.edge timer := by
  induction events generalizing state with
  | nil => exact .inl hwaiting
  | cons event rest ih =>
    have hstep : ¬ (step env state event).Crashed := alive_of_run halive
    have haccount := accounted_step h hfresh.1 hstep
    rcases waiting_step h hfresh.1 hstep htimer hwaiting with hwaits | hdone
    · exact ih haccount hfresh.2 halive hwaits
    · obtain ⟨last, hlast, -, -, hclock⟩ := step_chain h hfresh.1 hstep
      have hold : timer ≤ (step env state event).clock := by
        rw [hlast]
        exact (h.timers.numbered timer _ hwaiting.running).trans hclock.le
      exact .inr (done_run haccount hfresh.2 halive hold hdone)

theorem done_of_triggers_run (htimer : entry.timer = some timer)
    (hwaiting : Waiting state key entry timer) {before after : List Event} {event : Event}
    (hevents : events = before ++ event :: after)
    (htriggers : Triggers env (run (step env) state before) key entry timer event) :
    Done (run (step env) state events) key entry.edge timer := by
  subst hevents
  rw [along_append] at hfresh
  rw [run_append] at halive ⊢
  have hmid : ¬ (run (step env) state before).Crashed := alive_of_run halive
  have haccount := accounted_run h hfresh.1 hmid
  have hold : timer ≤ (run (step env) state before).clock :=
    (h.timers.numbered timer _ hwaiting.running).trans (clock_run h hfresh.1 hmid)
  rcases waiting_run h hfresh.1 hmid htimer hwaiting with hwaits | hdone
  · have hstep : ¬ (step env (run (step env) state before) event).Crashed :=
      alive_of_run halive
    have hlater : (run (step env) state before).clock ≤
        (step env (run (step env) state before) event).clock := by
      have hone : Along (step env) (FreshIds env) (run (step env) state before) [event] :=
        ⟨hfresh.2.1, trivial⟩
      exact clock_run haccount hone hstep
    exact done_run (accounted_step haccount hfresh.2.1 hstep) hfresh.2.2 halive
      (hold.trans hlater) (done_of_triggers haccount hfresh.2.1 hstep htimer hwaits htriggers)
  · exact done_run haccount hfresh.2 halive hold hdone

end Runs

/-- What became of the requests that were under way before the rest of a run. -/
structure AnsweredOnce (env : Env) (before : State) (rest : List Event) : Prop where
  counted : (run (step env) before rest).activeProxyRequests =
    (run (step env) before rest).pending.size
  /-- A request that waits is answered once, and as soon as something ends its waiting. -/
  waiting : ∀ key entry, before.pending.get? key = some entry →
    ∃ timer, entry.timer = some timer ∧
      (Waiting (run (step env) before rest) key entry timer ∨
        Answered (run (step env) before rest) key entry.edge timer) ∧
      ∀ mid event tail, rest = mid ++ event :: tail →
        Triggers env (run (step env) before mid) key entry timer event →
        Answered (run (step env) before rest) key entry.edge timer
  /-- A request whose route arrives is refused once, or waits from then on. -/
  resolved : ∀ id lookup route tail, rest = .routeResolved id route :: tail →
    before.lookups.get? id = some lookup → lookup.kind = .proxyRequest →
    ToldOnce (run (step env) before rest) lookup.edge (lookup.frame.get? "requestId") ∨
    ∃ entry timer, entry.edge = lookup.edge ∧ entry.timer = some timer ∧
      Waiting (step env before (.routeResolved id route))
        (keyOrFresh env lookup "requestId" before.tick) entry timer

end Tunnara.Relay
