/-
# Failures at the Edge

The process of a public Edge holds one session for each client of the TCP ingress, of
`#handle` and of `#upgrade`. An `'error'` that nobody listens to ends the process and
with it every session. Which events do that is said exactly: those in which a socket
fails that the handler does not listen to yet, or not any more.
-/

import Tunnara.Edge.Sessions

namespace Tunnara.Edge

open Policy Relay Transition OrdMap

/-- Of an event that is always attended to, only what attending gives is to be shown. -/
theorem attends_always {good bad : Prop} (h : good) : (True → good) ∧ (¬ True → bad) :=
  ⟨fun _ => h, absurd trivial⟩

namespace Ends

/-- Both ends have an `'error'` listener. -/
structure Attended (ends : Ends) : Prop where
  client : ends.client.heard = true
  relay : ends.relay.heard = true

variable {env : Env} {passes : Bool} {throws : Prop} {ends next : Ends}

theorem clientEmits_of_heard (h : ends.client.heard = true) :
    ends.clientEmits = ends.destroyRelay := if_pos h

theorem clientSocketFails_of_unheard (h : ends.client.heard = false)
    (hdestroyed : ¬ ends.client.destroyed = true) : ends.clientSocketFails.faults ≠ [] := by
  have hunheard : ¬ ({ ends with client.destroyed := true } : Ends).client.heard = true := by
    simp [h]
  unfold clientSocketFails clientEmits
  rw [if_neg hdestroyed, if_neg hunheard]
  simp [raise]

theorem faults_clientEmits_of_unheard (h : ends.client.heard = false) :
    ends.clientEmits.faults = ends.faults ++ [.unheardError] := by
  unfold clientEmits
  rw [if_neg (by simp [h])]
  rfl

theorem destroyClient_of_heard (h : ends.client.heard = true) {passed : Bool} :
    (ends.destroyClient passed).faults = ends.faults ∧
      (ends.destroyClient passed).client.heard = true ∧
      (ends.destroyClient passed).relay.heard = ends.relay.heard := by
  unfold destroyClient
  split_ifs
  · exact ⟨rfl, h, rfl⟩
  · have hheard : ({ ends with client.destroyed := true } : Ends).client.heard = true := h
    rw [clientEmits_of_heard hheard]
    exact ⟨rfl, h, rfl⟩
  · exact ⟨rfl, h, rfl⟩

theorem Works.attended (h : Works passes throws ends next) (hnot : ¬ throws)
    (hattended : ends.Attended) : next.Attended ∧ next.faults = ends.faults := by
  induction h with
  | touched hfaults hclient hrelay _ =>
    exact ⟨⟨hclient.trans hattended.client, hrelay.trans hattended.relay⟩, hfaults⟩
  | thrown ends error hthrows => exact absurd hthrows hnot
  | clientEmits ends =>
    rw [clientEmits_of_heard hattended.client]
    exact ⟨⟨hattended.client, hattended.relay⟩, rfl⟩
  | relayEmits ends =>
    obtain ⟨hfaults, hclient, hrelay⟩ := destroyClient_of_heard hattended.client
    unfold Ends.relayEmits
    rw [if_pos hattended.relay]
    exact ⟨⟨hclient, hrelay.trans hattended.relay⟩, hfaults⟩
  | wrote ends _ => exact ⟨⟨hattended.client, hattended.relay⟩, rfl⟩
  | trans _ _ ih ih' =>
    obtain ⟨hmid, hfaults⟩ := ih hattended
    obtain ⟨hlast, hfaults'⟩ := ih' hmid
    exact ⟨hlast, hfaults'.trans hfaults⟩

theorem Works.faults_ne (h : Works passes throws ends next) (hfaults : ends.faults ≠ []) :
    next.faults ≠ [] := by
  have hraise : ∀ {ends : Ends} (fault : Fault), (ends.raise fault).faults ≠ [] :=
    fun fault => by simp [raise]
  have hclient : ∀ {ends : Ends}, ends.faults ≠ [] → ends.clientEmits.faults ≠ [] := by
    intro ends hends
    unfold Ends.clientEmits
    split_ifs
    · exact hends
    · exact hraise _
  induction h with
  | touched hsame _ _ _ => rwa [hsame]
  | thrown ends error _ => exact hraise _
  | clientEmits ends => exact hclient hfaults
  | relayEmits ends =>
    unfold Ends.relayEmits destroyClient
    split_ifs
    · exact hfaults
    · exact hclient hfaults
    · exact hfaults
    · exact hraise _
  | wrote ends _ => exact hfaults
  | trans _ _ ih ih' => exact ih' (ih hfaults)

theorem faults_failRelay (h : ends.relay.heard = false)
    (hdestroyed : ¬ ends.relay.framed.destroyed = true) : (ends.failRelay passes).faults ≠ [] := by
  have hunheard : ¬ ({ ends with relay.framed := ends.relay.framed.destroy.connection } :
      Ends).relay.heard = true := by simp [h]
  have hemits : ends.relay.framed.destroy.emitsError = true := by
    simp [FramedConnection.destroy, hdestroyed]
  unfold failRelay
  rw [if_pos hemits, relayEmits, if_neg hunheard]
  simp [raise]

theorem faults_relaySocketFails (h : ends.relay.heard = false)
    (hdestroyed : ¬ ends.relay.framed.destroyed = true) :
    (ends.relaySocketFails passes).faults ≠ [] := by
  have hunheard : ¬ ({ ends with relay.framed.destroyed := true } : Ends).relay.heard = true := by
    simp [h]
  unfold relaySocketFails
  rw [if_neg hdestroyed, relayEmits, if_neg hunheard]
  simp [raise]

theorem faults_listener_send {payload : Json} (h : ends.Unwritable env payload)
    {after : Ends → Ends} :
    (ends.listener (ends.send env passes payload)).faults ≠ [] ∧
      (ends.listener ((ends.send env passes payload).map after)).faults ≠ [] := by
  obtain ⟨error, hsend⟩ := send_error_iff.2 h
  rw [hsend]
  exact ⟨by simp [listener, raise], by simp [listener, raise, Except.map]⟩

end Ends

/-! ## The TCP ingress -/

namespace TcpSession

/-- The step does not end the process. -/
def Attends (env : Env) (session : TcpSession) (event : SocketEvent) : Prop :=
  match session.phase, event with
  | .running, event => ¬ session.Throws env event
  | .connecting, .relayFailed => session.ends.client.destroyed = true
  | .connecting, .relayConnected => session.ends.client.destroyed = true ∨
      FramedConnection.Fits env.codec session.openingFrame
  | _, .clientFailed => session.ends.client.destroyed = true
  | _, _ => True

/-- Nothing has gone wrong, and the listeners are those of the phase. -/
structure Watched (session : TcpSession) : Prop where
  faultless : session.ends.faults = []
  running : session.phase = .running → session.ends.Attended
  unheard : session.phase ≠ .running → session.ends.client.heard = false

variable {env : Env} {session : TcpSession}

theorem watched_new {streamId : String} {tunnelId targetId : Option Json} :
    Watched { streamId, tunnelId, targetId } := ⟨rfl, nofun, fun _ => rfl⟩

theorem Watched.fail (h : session.Watched) (hphase : session.phase ≠ .running)
    (hdestroyed : session.ends.client.destroyed = true) : session.fail.Watched := by
  unfold TcpSession.fail Ends.destroyClient
  rw [if_pos hdestroyed]
  exact ⟨h.faultless, nofun, fun _ => h.unheard hphase⟩

theorem Watched.faults_fail (h : session.Watched) (hphase : session.phase ≠ .running)
    (hdestroyed : ¬ session.ends.client.destroyed = true) : session.fail.ends.faults ≠ [] := by
  have hunheard : ({ session.ends with client.destroyed := true } : Ends).client.heard = false :=
    h.unheard hphase
  unfold TcpSession.fail Ends.destroyClient
  rw [if_neg hdestroyed]
  show (Ends.clientEmits { session.ends with client.destroyed := true }).faults ≠ []
  rw [Ends.faults_clientEmits_of_unheard hunheard]
  simp

theorem Watched.connected (h : session.Watched) (hphase : session.phase = .connecting) :
    ((session.ends.client.destroyed = true ∨
        FramedConnection.Fits env.codec session.openingFrame) → (session.connected env).Watched) ∧
      (¬ (session.ends.client.destroyed = true ∨
        FramedConnection.Fits env.codec session.openingFrame) →
          (session.connected env).ends.faults ≠ []) := by
  have hunheard := h.unheard (hphase.trans_ne nofun)
  have hnot : session.phase ≠ .running := hphase.trans_ne nofun
  have hfresh : Watched { session with ends.relay := {} } :=
    ⟨h.faultless, fun hrunning => absurd hrunning hnot, fun _ => hunheard⟩
  unfold TcpSession.connected
  dsimp only
  obtain ⟨hsent, hthrown⟩ := @Ends.send_fresh env true { session.ends with relay := {} }
    session.openingFrame rfl
  by_cases hfits : FramedConnection.Fits env.codec session.openingFrame
  · rw [hsent hfits]
    exact ⟨fun _ => ⟨h.faultless, fun _ => ⟨rfl, rfl⟩, absurd rfl⟩,
      fun hno => absurd (.inr hfits) hno⟩
  · obtain ⟨error, herror⟩ := hthrown hfits
    rw [herror]
    exact ⟨fun hdone => hfresh.fail hnot (hdone.resolve_right hfits),
      fun hno => hfresh.faults_fail hnot fun hdestroyed => hno (.inl hdestroyed)⟩

variable {event : SocketEvent}

theorem Watched.handleAlone (h : session.Watched) (hphase : session.phase ≠ .running)
    (hevent : event = .clientFailed → session.ends.client.destroyed = true) :
    (session.handleAlone event).Watched := by
  have hunheard := h.unheard hphase
  have hkeeps : ∀ client : Socket, client.heard = session.ends.client.heard →
      Watched { session with ends.client := client } := by
    intro client hclient
    exact ⟨h.faultless, fun hrunning => absurd hrunning hphase, fun _ => hclient.trans hunheard⟩
  cases event with
  | clientEnd =>
    rw [TcpSession.handleAlone]
    split_ifs
    · exact h
    · exact hkeeps _ rfl
  | clientClose => exact hkeeps _ rfl
  | clientFailed =>
    rw [TcpSession.handleAlone, Ends.clientSocketFails, if_pos (hevent rfl)]
    exact h
  | relayConnected | relayFailed | relayData chunk | relayEnd | relayClose
  | clientData chunk => exact h

theorem Watched.handleRunning (h : session.Watched) (hphase : session.phase = .running)
    (hattends : ¬ session.Throws env event) : (session.handleRunning env event).Watched := by
  have hcontinues := @continues_handleRunning env session event
  obtain ⟨hattended, hfaults⟩ := hcontinues.ends.attended hattends (h.running hphase)
  exact ⟨hfaults.trans h.faultless, fun _ => hattended,
    fun hne => absurd (hcontinues.phase.trans hphase) hne⟩

theorem faults_of_throws (h : session.Throws env event) :
    (session.handleRunning env event).ends.faults ≠ [] := by
  obtain ⟨payload, hsends, hunwritable⟩ := h
  cases event with
  | clientData chunk =>
    rw [sends] at hsends
    split_ifs at hsends with hdone
    cases hsends
    rw [not_or, not_not] at hdone
    rw [handleRunning, if_neg hdone.1, onClientData]
    rw [if_pos hdone.2]
    exact (@Ends.faults_listener_send env true { session.ends with
      client.read := session.ends.client.read ++ [chunk] } _ hunwritable id).1
  | clientEnd =>
    rw [sends] at hsends
    split_ifs at hsends with hdone
    cases hsends
    rw [handleRunning, if_neg hdone]
    exact (@Ends.faults_listener_send env true { session.ends with client :=
      { session.ends.client with finished := true, ended := true } } _ hunwritable id).1
  | clientClose =>
    rw [sends] at hsends
    split_ifs at hsends with hdone
    cases hsends
    rw [handleRunning, if_neg hdone]
    exact (@Ends.faults_listener_send env true { session.ends with client :=
      { session.ends.client with gone := true, destroyed := true } } _ hunwritable _).2
  | relayConnected | relayFailed | relayData chunk | relayEnd | relayClose
  | clientFailed => cases hsends

theorem Watched.handle_iff (h : session.Watched) (event : SocketEvent) :
    (session.Attends env event → (session.handle env event).Watched) ∧
      (¬ session.Attends env event → (session.handle env event).ends.faults ≠ []) := by
  unfold Attends TcpSession.handle
  cases hphase : session.phase with
  | running =>
    exact ⟨h.handleRunning hphase, fun hthrows => faults_of_throws (not_not.1 hthrows)⟩
  | connecting =>
    have hnot : session.phase ≠ .running := hphase.trans_ne nofun
    cases event with
    | relayConnected => exact h.connected hphase
    | relayFailed => exact ⟨h.fail hnot, h.faults_fail hnot⟩
    | clientFailed =>
      exact ⟨fun hdestroyed => h.handleAlone hnot fun _ => hdestroyed,
        Ends.clientSocketFails_of_unheard (h.unheard hnot)⟩
    | _ => exact attends_always (h.handleAlone hnot nofun)
  | failed =>
    have hnot : session.phase ≠ .running := hphase.trans_ne nofun
    cases event with
    | clientFailed =>
      exact ⟨fun hdestroyed => h.handleAlone hnot fun _ => hdestroyed,
        Ends.clientSocketFails_of_unheard (h.unheard hnot)⟩
    | _ => exact attends_always (h.handleAlone hnot nofun)

end TcpSession

/-! ## Upgrades -/

variable {signals : List Signal} {happening : Happening}

namespace UpgradeSession

/-- No end fails that nobody listens to. -/
def AttendsAlone (config : Config) (session : UpgradeSession) : SocketEvent → Prop
  | .clientFailed => session.ends.client.destroyed = true
  | .relayFailed => session.ends.relay.framed.destroyed = true
  | .relayData chunk => session.ends.relay.framed.destroyed = true ∨ Signal.invalidLength ∉
      (drain config.env.codec (session.ends.relay.framed.buffer ++ chunk)).1
  | _ => True

/-- The step does not end the process. -/
def Attends (config : Config) (session : UpgradeSession) (event : ServerEvent) : Prop :=
  match session.phase, event with
  | .running, .socket event => ¬ session.Throws config event
  | .connecting _ _, .socket .relayFailed => True
  | _, .socket event => session.AttendsAlone config event
  | _, _ => True

/-- Nothing has gone wrong, and the listeners are those of the phase. -/
structure Watched (session : UpgradeSession) : Prop where
  faultless : session.ends.faults = []
  running : session.phase = .running → session.ends.Attended
  unheard : session.phase ≠ .running →
    session.ends.client.heard = false ∧ session.ends.relay.heard = false
  unended : session.phase ≠ .running → session.ends.client.ended = false
  unmade : session.phase ≠ .running → session.phase ≠ .finished →
    session.ends.relay.framed.destroyed = true

variable {config : Config} {session : UpgradeSession}

theorem Watched.refuse {ends : Ends} (hfaultless : ends.faults = [])
    (hunheard : ends.client.heard = false ∧ ends.relay.heard = false)
    (hunended : ends.client.ended = false) (status : String) :
    Watched ({ session with ends }.refuse status) := by
  have hquiet : ∀ data, ((ends.writeClient data).destroyClient false).faults = [] ∧
      ((ends.writeClient data).destroyClient false).client.heard = false ∧
      ((ends.writeClient data).destroyClient false).relay.heard = false ∧
      ((ends.writeClient data).destroyClient false).client.ended = false := by
    intro data
    unfold Ends.writeClient Ends.destroyClient
    cases hdestroyed : ends.client.destroyed <;>
      simp [hdestroyed, hunended, hfaultless, hunheard.1, hunheard.2]
  obtain ⟨hfaults, hclient, hrelay, hended⟩ := hquiet (statusLine status)
  exact ⟨hfaults, nofun, fun _ => ⟨hclient, hrelay⟩, fun _ => hended, fun _ h => absurd rfl h⟩

theorem watched_arrive (config : Config) (request : Request) (httpVersion : String)
    (head : List UInt8) (streamId : String) :
    Watched (arrive config request httpVersion head streamId) := by
  unfold arrive
  split
  · exact @Watched.refuse { request, httpVersion, head, hostname := "", streamId }
      { relay := .absent } rfl ⟨rfl, rfl⟩ rfl _
  · exact ⟨rfl, nofun, fun _ => ⟨rfl, rfl⟩, fun _ => rfl, fun _ _ => rfl⟩

section

variable (h : session.Watched)
include h

theorem Watched.connected (hphase : session.phase ≠ .running) (route : Json)
    (decision : PolicyResult) : (session.connected config route decision).Watched := by
  obtain ⟨hsent, hthrown⟩ := @Ends.send_fresh config.env false { session.ends with relay := {} }
    (upgradeFrame session.streamId route (session.initial config decision)) rfl
  unfold UpgradeSession.connected
  dsimp only
  by_cases hfits : FramedConnection.Fits config.env.codec
      (upgradeFrame session.streamId route (session.initial config decision))
  · rw [hsent hfits]
    exact ⟨h.faultless, fun _ => ⟨rfl, rfl⟩, absurd rfl, absurd rfl,
      absurd rfl⟩
  · obtain ⟨error, herror⟩ := hthrown hfits
    rw [herror]
    exact @Watched.refuse session { session.ends with relay := {} } h.faultless
      ⟨(h.unheard hphase).1, rfl⟩ (h.unended hphase) _

omit h in
theorem run_onSignalAlone (h : Signal.invalidLength ∉ signals) :
    run onSignalAlone session signals = session := by
  induction signals with
  | nil => rfl
  | cons signal rest ih =>
    rw [List.mem_cons, not_or] at h
    have hfirst : session.onSignalAlone signal = session := by
      cases signal with
      | frame frame | malformed => rfl
      | invalidLength => exact absurd rfl h.1
    rw [run_cons, hfirst, ih h.2]

omit h in
theorem faults_onSignalAlone (h : Signal.invalidLength ∈ signals)
    (hunheard : session.ends.relay.heard = false)
    (hdestroyed : ¬ session.ends.relay.framed.destroyed = true) :
    (run onSignalAlone session signals).ends.faults ≠ [] := by
  have hpersist : ∀ (state : UpgradeSession) (signal : Signal), state.ends.faults ≠ [] →
      (state.onSignalAlone signal).ends.faults ≠ [] := by
    intro state signal hfaults
    cases signal with
    | frame frame | malformed => exact hfaults
    | invalidLength =>
      exact (@Ends.works_failRelay false False state.ends).faults_ne hfaults
  induction signals with
  | nil => cases h
  | cons signal rest ih =>
    cases signal with
    | frame frame | malformed => exact ih (by simpa using h)
    | invalidLength =>
      exact fault_run hpersist (Ends.faults_failRelay hunheard hdestroyed) rest

theorem Watched.handleAlone_iff (hphase : session.phase ≠ .running) {event : SocketEvent} :
    (session.AttendsAlone config event → (session.handleAlone config event).Watched) ∧
      (¬ session.AttendsAlone config event →
        (session.handleAlone config event).ends.faults ≠ []) := by
  obtain ⟨hclient, hrelay⟩ := h.unheard hphase
  have hkeeps : ∀ ends : Ends, ends.faults = session.ends.faults →
      ends.client.heard = session.ends.client.heard →
      ends.relay.heard = session.ends.relay.heard →
      ends.client.ended = session.ends.client.ended →
      (session.ends.relay.framed.destroyed = true → ends.relay.framed.destroyed = true) →
      Watched { session with ends } := by
    intro ends hfaults hheard hheard' hended hdestroyed
    exact ⟨hfaults.trans h.faultless, fun hrunning => absurd hrunning hphase,
      fun _ => ⟨hheard.trans hclient, hheard'.trans hrelay⟩,
      fun _ => hended.trans (h.unended hphase), fun hne hne' => hdestroyed (h.unmade hne hne')⟩
  cases event with
  | clientFailed =>
    refine ⟨fun (hdestroyed : session.ends.client.destroyed = true) => ?_,
      Ends.clientSocketFails_of_unheard hclient⟩
    rw [handleAlone, Ends.clientSocketFails, if_pos hdestroyed]
    exact h
  | relayFailed =>
    refine ⟨fun (hdestroyed : session.ends.relay.framed.destroyed = true) => ?_,
      Ends.faults_relaySocketFails hrelay⟩
    rw [handleAlone, Ends.relaySocketFails, if_pos hdestroyed]
    exact h
  | relayData chunk =>
    rw [AttendsAlone, handleAlone]
    by_cases hdestroyed : session.ends.relay.framed.destroyed = true
    · rw [if_pos hdestroyed]
      exact ⟨fun _ => h, fun hno => absurd (.inl hdestroyed) hno⟩
    · rw [if_neg hdestroyed]
      refine ⟨fun hattends => ?_, fun hno => ?_⟩
      · rw [run_onSignalAlone (hattends.resolve_left hdestroyed)]
        exact hkeeps _ rfl rfl rfl rfl id
      · rw [not_or, not_not] at hno
        exact faults_onSignalAlone hno.2 hrelay hdestroyed
  | relayEnd =>
    rw [handleAlone]
    split_ifs
    · exact attends_always h
    · exact attends_always (hkeeps _ rfl rfl rfl rfl id)
  | relayClose =>
    exact attends_always (hkeeps _ rfl rfl rfl rfl fun _ => rfl)
  | clientEnd =>
    rw [handleAlone]
    split_ifs
    · exact attends_always h
    · exact attends_always (hkeeps _ rfl rfl rfl rfl id)
  | clientClose => exact attends_always (hkeeps _ rfl rfl rfl rfl id)
  | relayConnected | clientData chunk => exact attends_always h

theorem Watched.setPhase {phase : UpgradePhase}
    (hphase : session.phase ≠ .running ∧ session.phase ≠ .finished) (hnext : phase ≠ .running) :
    Watched { session with phase } :=
  ⟨h.faultless, fun hrunning => absurd hrunning hnext, fun _ => h.unheard hphase.1,
    fun _ => h.unended hphase.1, fun _ _ => h.unmade hphase.1 hphase.2⟩

theorem Watched.giveUp (hphase : session.phase ≠ .running) (status : String) :
    (session.refuse status).Watched :=
  @Watched.refuse session session.ends h.faultless (h.unheard hphase) (h.unended hphase) status

section

variable (hphase : session.phase ≠ .running ∧ session.phase ≠ .finished)
include hphase

theorem Watched.routeResolved (route : Option Json) : (session.routeResolved route).Watched := by
  unfold UpgradeSession.routeResolved
  split
  · split_ifs
    · exact h.setPhase hphase nofun
    · exact h.giveUp hphase.1 _
    · exact h.giveUp hphase.1 _
  · exact h.giveUp hphase.1 _

theorem Watched.decided (route : Json) (buckets : RateBuckets) :
    (session.decided config route buckets).Watched := by
  unfold UpgradeSession.decided
  split
  · split_ifs
    · exact h.setPhase hphase nofun
    · exact h.giveUp hphase.1 _
  · exact h.giveUp hphase.1 _

end

theorem Watched.continues {throws : Prop} {next : UpgradeSession}
    (hphase : session.phase = .running) (hcontinues : session.Continues config throws next)
    (hnot : ¬ throws) : next.Watched := by
  obtain ⟨hattended, hfaults⟩ := hcontinues.ends.attended hnot (h.running hphase)
  have hrunning : next.phase = .running := hcontinues.phase.trans hphase
  exact ⟨hfaults.trans h.faultless, fun _ => hattended, absurd hrunning,
    absurd hrunning, absurd hrunning⟩

omit h in
theorem faults_of_throws {event : SocketEvent} (h : session.Throws config event) :
    (session.handleRunning config event).ends.faults ≠ [] := by
  obtain ⟨payload, hsends, hunwritable⟩ := h
  cases event with
  | clientData chunk =>
    rw [sends] at hsends
    split_ifs at hsends with hdone
    cases hsends
    rw [handleRunning, if_neg hdone]
    exact (@Ends.faults_listener_send config.env false { session.ends with
      client.read := session.ends.client.read ++ [chunk] } _ hunwritable id).1
  | clientEnd =>
    rw [sends] at hsends
    split_ifs at hsends with hdone
    cases hsends
    rw [handleRunning, if_neg hdone]
    exact (@Ends.faults_listener_send config.env false { session.ends with
      client.finished := true } _ hunwritable id).1
  | clientClose =>
    rw [sends] at hsends
    split_ifs at hsends with hdone
    cases hsends
    rw [handleRunning, if_neg hdone]
    exact (@Ends.faults_listener_send config.env false { session.ends with client :=
      { session.ends.client with gone := true, destroyed := true } } _ hunwritable _).2
  | relayConnected | relayFailed | relayData chunk | relayEnd | relayClose
  | clientFailed => cases hsends

theorem Watched.handle_iff (event : ServerEvent) :
    (session.Attends config event → (session.handle config event).Watched) ∧
      (¬ session.Attends config event → (session.handle config event).ends.faults ≠ []) := by
  unfold Attends UpgradeSession.handle
  cases hphase : session.phase with
  | resolving =>
    have hearly : session.phase ≠ .running ∧ session.phase ≠ .finished := by
      rw [hphase]
      exact ⟨nofun, nofun⟩
    cases event with
    | routeResolved route =>
      exact attends_always (h.routeResolved hearly route)
    | socket event => exact h.handleAlone_iff hearly.1
    | _ => exact attends_always h
  | deciding route =>
    have hearly : session.phase ≠ .running ∧ session.phase ≠ .finished := by
      rw [hphase]
      exact ⟨nofun, nofun⟩
    cases event with
    | decided buckets =>
      exact attends_always (h.decided hearly route buckets)
    | socket event => exact h.handleAlone_iff hearly.1
    | _ => exact attends_always h
  | connecting route decision =>
    have hnot : session.phase ≠ .running := hphase.trans_ne nofun
    cases event with
    | socket event =>
      cases event with
      | relayConnected =>
        exact attends_always (h.connected hnot route decision)
      | relayFailed => exact attends_always (h.giveUp hnot _)
      | _ => exact h.handleAlone_iff hnot
    | _ => exact attends_always h
  | running =>
    cases event with
    | socket event =>
      exact ⟨fun hnot => h.continues hphase (continues_handleRunning event) hnot,
        fun hthrows => faults_of_throws (not_not.1 hthrows)⟩
    | timeout =>
      exact attends_always (h.continues hphase (@continues_onTimeout config False session) id)
    | _ => exact attends_always h
  | finished =>
    have hnot : session.phase ≠ .running := hphase.trans_ne nofun
    cases event with
    | socket event => exact h.handleAlone_iff hnot
    | _ => exact attends_always h

end

end UpgradeSession

/-! ## Requests -/

namespace RequestSession

/-- The step does not end the process. -/
def Attends (config : Config) (session : RequestSession) (event : ServerEvent) : Prop :=
  match session.phase, event with
  | .awaiting, .socket (.relayData chunk) =>
    let signals := (drain config.env.codec (session.relay.framed.buffer ++ chunk)).1
    session.relay.framed.destroyed = true ∨
      (Signal.invalidLength ∈ signals → ∀ frame, Signal.frame frame ∉ signals)
  | .finished, .socket (.relayData chunk) => session.relay.framed.destroyed = true ∨
      Signal.invalidLength ∉ (drain config.env.codec (session.relay.framed.buffer ++ chunk)).1
  | .finished, .socket .relayFailed => session.relay.framed.destroyed = true
  | _, _ => True

/-- Nothing has gone wrong, and `onceFrame` listens while it is awaited. -/
structure Watched (session : RequestSession) : Prop where
  faultless : session.faults = []
  heard : session.relay.heard = true ↔ session.phase = .awaiting

variable {config : Config} {session : RequestSession}

theorem watched_of_unheard (hfaultless : session.faults = []) (hphase : session.phase ≠ .awaiting)
    (hunheard : session.relay.heard = false) : session.Watched :=
  ⟨hfaultless, iff_of_false (by simp [hunheard]) hphase⟩

theorem Watched.unheard (h : session.Watched) (hphase : session.phase ≠ .awaiting) :
    session.relay.heard = false := by
  cases hheard : session.relay.heard with
  | false => rfl
  | true => exact absurd (h.heard.1 hheard) hphase

theorem Watched.finish (h : session.Watched) (hphase : session.phase ≠ .awaiting) :
    session.finish.Watched := watched_of_unheard h.faultless nofun (h.unheard hphase)

theorem watched_arrive (config : Config) (request : Request) (requestId freshId : String) :
    Watched (arrive config request requestId freshId) := by
  unfold arrive
  split_ifs
  · exact ⟨rfl, iff_of_false nofun nofun⟩
  · split
    · exact ⟨rfl, iff_of_false nofun nofun⟩
    · exact ⟨rfl, iff_of_false nofun nofun⟩

theorem run_onSignal_of_unheard (hunheard : session.relay.heard = false)
    (h : Signal.invalidLength ∉ signals) : run onSignal session signals = session := by
  induction signals with
  | nil => rfl
  | cons signal rest ih =>
    rw [List.mem_cons, not_or] at h
    have hfirst : session.onSignal signal = session := by
      cases signal with
      | frame frame =>
        rw [onSignal, if_neg (by simp [hunheard])]
      | malformed => rfl
      | invalidLength => exact absurd rfl h.1
    rw [run_cons, hfirst, ih h.2]

theorem faults_relayEmits (h : session.faults ≠ []) : session.relayEmits.faults ≠ [] := by
  unfold relayEmits
  split_ifs
  · exact h
  · simp

theorem faults_onSignal {signal : Signal} (h : session.faults ≠ []) :
    (session.onSignal signal).faults ≠ [] := by
  cases signal with
  | frame frame =>
    rw [onSignal]
    split_ifs <;> exact h
  | malformed => exact h
  | invalidLength =>
    rw [onSignal]
    split_ifs
    · exact faults_relayEmits h
    · exact h

theorem faults_run_onSignal (h : Signal.invalidLength ∈ signals)
    (hunheard : session.relay.heard = false)
    (hdestroyed : ¬ session.relay.framed.destroyed = true) :
    (run onSignal session signals).faults ≠ [] := by
  have hpersist : ∀ (state : RequestSession) (signal : Signal), state.faults ≠ [] →
      (state.onSignal signal).faults ≠ [] := fun state signal => faults_onSignal
  induction signals with
  | nil => cases h
  | cons signal rest ih =>
    cases signal with
    | frame frame =>
      have hsame : session.onSignal (.frame frame) = session := by
        rw [onSignal, if_neg (by simp [hunheard])]
      rw [run_cons, hsame]
      exact ih (by simpa using h)
    | malformed => exact ih (by simpa using h)
    | invalidLength =>
      have hfirst : (session.onSignal .invalidLength).faults ≠ [] := by
        have hemits : session.relay.framed.destroy.emitsError = true := by
          simp [FramedConnection.destroy, hdestroyed]
        rw [onSignal]
        rw [if_pos hemits, relayEmits, if_neg (by simp [hunheard])]
        simp
      exact fault_run hpersist hfirst rest

section

variable (h : session.Watched)
include h

theorem Watched.signals_iff (hphase : session.phase = .awaiting)
    (hdestroyed : ¬ session.relay.framed.destroyed = true)
    (hlast : ∀ before after, signals = before ++ .invalidLength :: after → after = []) :
    ((Signal.invalidLength ∈ signals → ∀ frame, Signal.frame frame ∉ signals) →
        (run onSignal session signals).Watched) ∧
      (¬ (Signal.invalidLength ∈ signals → ∀ frame, Signal.frame frame ∉ signals) →
        (run onSignal session signals).faults ≠ []) := by
  have hheard : session.relay.heard = true := h.heard.2 hphase
  induction signals with
  | nil => exact ⟨fun _ => h, fun hno => absurd (fun _ _ => List.not_mem_nil) hno⟩
  | cons signal rest ih =>
    cases signal with
    | malformed =>
      have hrest := ih fun before after hsplit =>
        hlast (.malformed :: before) after (by rw [hsplit, List.cons_append])
      have hsame : session.onSignal .malformed = session := rfl
      rw [run_cons, hsame]
      simpa using hrest
    | frame frame =>
      have hclosed : session.onSignal (.frame frame) =
          RequestSession.finish { session with relay := { session.relay with
            heard := false, framed := session.relay.framed.close } } := by
        rw [onSignal, if_pos hheard]
      have hopen : ¬ session.relay.framed.close.destroyed = true := by
        unfold FramedConnection.close
        split_ifs <;> exact hdestroyed
      rw [run_cons, hclosed]
      constructor
      · intro hnone
        rw [run_onSignal_of_unheard rfl fun hmem =>
          hnone (List.mem_cons_of_mem _ hmem) frame List.mem_cons_self]
        exact watched_of_unheard h.faultless nofun rfl
      · intro hsome
        have hmem : Signal.invalidLength ∈ rest := by
          by_contra hnot
          apply hsome
          intro hinvalid
          simp [hnot] at hinvalid
        exact faults_run_onSignal hmem rfl hopen
    | invalidLength =>
      have hnil : rest = [] := hlast [] rest rfl
      subst hnil
      have hemits : session.relay.framed.destroy.emitsError = true := by
        simp [FramedConnection.destroy, hdestroyed]
      have hended : session.onSignal .invalidLength =
          RequestSession.finish { session with relay := { session.relay with
            heard := false, framed := session.relay.framed.destroy.connection } } := by
        rw [onSignal]
        rw [if_pos hemits, relayEmits, if_pos hheard]
      rw [run_cons, hended]
      exact ⟨fun _ => watched_of_unheard h.faultless nofun rfl, fun hno => absurd (fun _ _ => by simp) hno⟩

section

variable (hphase : session.phase ≠ .awaiting)
include hphase

theorem Watched.routeResolved (route : Option Json) : (session.routeResolved route).Watched := by
  unfold RequestSession.routeResolved
  split
  · split_ifs
    · exact watched_of_unheard h.faultless nofun (h.unheard hphase)
    · exact h.finish hphase
  · exact h.finish hphase

theorem Watched.decided (route : Json) (buckets : RateBuckets) :
    (session.decided config route buckets).Watched := by
  unfold RequestSession.decided
  split
  · split_ifs
    · exact watched_of_unheard h.faultless nofun (h.unheard hphase)
    · exact h.finish hphase
  · exact h.finish hphase

theorem Watched.bodyRead (route : Json) (decision : PolicyResult)
    (body : Except JsError (List UInt8)) :
    (session.bodyRead config route decision body).Watched := by
  unfold RequestSession.bodyRead
  split
  · exact h.finish hphase
  · split
    · exact h.finish hphase
    · exact watched_of_unheard h.faultless nofun (h.unheard hphase)

end

theorem Watched.connected (route : Json) (decision : PolicyResult) (headers : FrameHeaders)
    (body : List UInt8) : (session.connected config route decision headers body).Watched := by
  unfold RequestSession.connected
  dsimp only
  split
  · exact watched_of_unheard h.faultless nofun rfl
  · exact ⟨h.faultless, iff_of_true rfl rfl⟩

theorem Watched.onRelay {event : SocketEvent} (hfailed : event ≠ .relayFailed)
    (hdata : ∀ chunk, event ≠ .relayData chunk) : (session.onRelay config event).Watched := by
  cases event with
  | relayFailed => exact absurd rfl hfailed
  | relayData chunk => exact absurd rfl (hdata chunk)
  | relayEnd =>
    rw [RequestSession.onRelay]
    split_ifs
    · exact h
    · exact ⟨h.faultless, h.heard⟩
  | relayClose =>
    rw [RequestSession.onRelay]
    dsimp only
    split_ifs
    · exact h
    · exact watched_of_unheard h.faultless nofun rfl
    · exact ⟨h.faultless, h.heard⟩
  | relayConnected | clientData chunk | clientEnd | clientClose | clientFailed => exact h

theorem Watched.awaiting_iff (hphase : session.phase = .awaiting) (event : SocketEvent) :
    (session.Attends config (.socket event) → (session.onRelay config event).Watched) ∧
      (¬ session.Attends config (.socket event) → (session.onRelay config event).faults ≠ []) := by
  have hheard : session.relay.heard = true := h.heard.2 hphase
  unfold Attends
  rw [hphase]
  cases event with
  | relayFailed =>
    refine attends_always ?_
    rw [RequestSession.onRelay]
    split_ifs
    · exact h
    · rw [relayEmits, if_pos hheard]
      exact watched_of_unheard h.faultless nofun rfl
  | relayData chunk =>
    rw [RequestSession.onRelay]
    by_cases hdestroyed : session.relay.framed.destroyed = true
    · rw [if_pos hdestroyed]
      exact ⟨fun _ => h, fun hno => absurd (.inl hdestroyed) hno⟩
    · have hbuffered : Watched { session with relay.framed.buffer :=
          (drain config.env.codec (session.relay.framed.buffer ++ chunk)).2 } :=
        ⟨h.faultless, h.heard⟩
      obtain ⟨hgood, hbad⟩ := hbuffered.signals_iff hphase hdestroyed
        (drainWith_invalidLength config.env.codec _ (session.relay.framed.buffer ++ chunk))
      rw [if_neg hdestroyed]
      exact ⟨fun hattends => hgood (hattends.resolve_left hdestroyed),
        fun hno => hbad fun hall => hno (.inr hall)⟩
  | _ => exact attends_always (h.onRelay nofun nofun)

theorem Watched.finished_iff (hphase : session.phase = .finished) (event : SocketEvent) :
    (session.Attends config (.socket event) → (session.onRelay config event).Watched) ∧
      (¬ session.Attends config (.socket event) → (session.onRelay config event).faults ≠ []) := by
  have hunheard : session.relay.heard = false := h.unheard (hphase.trans_ne nofun)
  unfold Attends
  rw [hphase]
  cases event with
  | relayFailed =>
    rw [RequestSession.onRelay]
    by_cases hdestroyed : session.relay.framed.destroyed = true
    · rw [if_pos hdestroyed]
      exact ⟨fun _ => h, absurd hdestroyed⟩
    · rw [if_neg hdestroyed, relayEmits, if_neg (by simp [hunheard])]
      exact ⟨fun hyes => absurd hyes hdestroyed, fun _ => by simp⟩
  | relayData chunk =>
    rw [RequestSession.onRelay]
    by_cases hdestroyed : session.relay.framed.destroyed = true
    · rw [if_pos hdestroyed]
      exact ⟨fun _ => h, fun hno => absurd (.inl hdestroyed) hno⟩
    · rw [if_neg hdestroyed, onRelayData]
      have hbuffered : ({ session with relay.framed.buffer :=
          (drain config.env.codec (session.relay.framed.buffer ++ chunk)).2 } :
            RequestSession).relay.heard = false := hunheard
      refine ⟨fun hattends => ?_, fun hno => ?_⟩
      · rw [run_onSignal_of_unheard hbuffered (hattends.resolve_left hdestroyed)]
        exact ⟨h.faultless, h.heard⟩
      · rw [not_or, not_not] at hno
        exact faults_run_onSignal hno.2 hunheard hdestroyed
  | _ => exact attends_always (h.onRelay nofun nofun)

theorem Watched.handle_iff (event : ServerEvent) :
    (session.Attends config event → (session.handle config event).Watched) ∧
      (¬ session.Attends config event → (session.handle config event).faults ≠ []) := by
  unfold Attends RequestSession.handle
  cases hphase : session.phase with
  | awaiting =>
    cases event with
    | socket event =>
      have hiff := @Watched.awaiting_iff config session h hphase event
      unfold Attends at hiff
      rw [hphase] at hiff
      exact hiff
    | timeout =>
      exact attends_always (watched_of_unheard h.faultless nofun rfl)
    | _ =>
      exact attends_always h
  | finished =>
    cases event with
    | socket event =>
      have hiff := @Watched.finished_iff config session h hphase event
      unfold Attends at hiff
      rw [hphase] at hiff
      exact hiff
    | _ =>
      exact attends_always h
  | resolving =>
    have hnot : session.phase ≠ .awaiting := hphase.trans_ne nofun
    cases event with
    | routeResolved route =>
      exact attends_always (h.routeResolved hnot route)
    | _ =>
      exact attends_always h
  | deciding route =>
    have hnot : session.phase ≠ .awaiting := hphase.trans_ne nofun
    cases event with
    | decided buckets =>
      exact attends_always (h.decided hnot route buckets)
    | _ =>
      exact attends_always h
  | reading route decision =>
    have hnot : session.phase ≠ .awaiting := hphase.trans_ne nofun
    cases event with
    | bodyRead body =>
      exact attends_always (h.bodyRead hnot route decision body)
    | _ =>
      exact attends_always h
  | connecting route decision headers body =>
    have hnot : session.phase ≠ .awaiting := hphase.trans_ne nofun
    cases event with
    | socket event =>
      cases event with
      | relayConnected =>
        exact attends_always (h.connected route decision headers body)
      | relayFailed => exact attends_always (h.finish hnot)
      | _ => exact attends_always h
    | _ =>
      exact attends_always h

end

end RequestSession

/-! ## The process -/

/-- A client's connection and what handles it. -/
inductive Session
  | tcp (session : TcpSession)
  | request (session : RequestSession)
  | upgrade (session : UpgradeSession)

namespace Session

def faults : Session → List Fault
  | tcp session => session.ends.faults
  | request session => session.faults
  | upgrade session => session.ends.faults

def step (config : Config) : Session → ServerEvent → Session
  | tcp session, .socket event => tcp (session.step config.env event)
  | tcp session, _ => tcp session
  | request session, event => request (session.step config event)
  | upgrade session, event => upgrade (session.step config event)

/-- The step does not end the process. -/
def Attends (config : Config) : Session → ServerEvent → Prop
  | tcp session, .socket event => session.Attends config.env event
  | tcp _, _ => True
  | request session, event => session.Attends config event
  | upgrade session, event => session.Attends config event

def Watched : Session → Prop
  | tcp session => session.Watched
  | request session => session.Watched
  | upgrade session => session.Watched

variable {config : Config} {session : Session}

theorem Watched.faults (h : session.Watched) : session.faults = [] := by
  cases session with
  | tcp session => exact TcpSession.Watched.faultless h
  | request session => exact RequestSession.Watched.faultless h
  | upgrade session => exact UpgradeSession.Watched.faultless h

theorem Watched.step_iff (h : session.Watched) {event : ServerEvent} :
    (session.Attends config event → (session.step config event).Watched) ∧
      (¬ session.Attends config event → (session.step config event).faults ≠ []) := by
  cases session with
  | tcp session =>
    have hwatched : session.Watched := h
    cases event with
    | socket event =>
      have hstep : session.step config.env event = session.handle config.env event :=
        if_neg (not_not.2 hwatched.faultless)
      simp only [step, hstep]
      exact hwatched.handle_iff event
    | _ => exact attends_always h
  | request session | upgrade session =>
    have hwatched : session.Watched := h
    have hstep : session.step config event = session.handle config event :=
      if_neg (not_not.2 hwatched.faultless)
    simp only [step, hstep]
    exact hwatched.handle_iff event

end Session

/-- The sessions of an Edge, by client. -/
structure Process where
  sessions : OrdMap ℕ Session := OrdMap.empty

inductive Happening
  | accepted (client : ℕ) (streamId : String) (tunnelId targetId : Option Json)
  | requested (client : ℕ) (request : Request) (requestId freshId : String)
  | upgraded (client : ℕ) (request : Request) (httpVersion : String) (head : List UInt8)
      (streamId : String)
  /-- Something happens to the sockets of a client or to what its handler waits for. -/
  | event (client : ℕ) (event : ServerEvent)

def Happening.client : Happening → ℕ
  | accepted client .. | requested client .. | upgraded client .. | event client _ => client

namespace Process

/-- The process has ended, and with it every socket is closed. -/
def Crashed (process : Process) : Prop :=
  ∃ entry ∈ process.sessions.entries, entry.2.faults ≠ []

instance (process : Process) : Decidable process.Crashed :=
  inferInstanceAs (Decidable (∃ entry ∈ process.sessions.entries, entry.2.faults ≠ []))

/-- A client that is not there yet. -/
def enter (process : Process) (client : ℕ) (session : Session) : Process :=
  if (process.sessions.get? client).isSome then process
  else { sessions := process.sessions.set client session }

variable (config : Config)

def step (process : Process) (happening : Happening) : Process :=
  if process.Crashed then process
  else match happening with
    | .accepted client streamId tunnelId targetId =>
      process.enter client (.tcp { streamId, tunnelId, targetId })
    | .requested client request requestId freshId =>
      process.enter client (.request (.arrive config request requestId freshId))
    | .upgraded client request httpVersion head streamId =>
      process.enter client (.upgrade (.arrive config request httpVersion head streamId))
    | .event client event =>
      { sessions := process.sessions.update client fun session => session.step config event }

/-- What happens to a client ends neither the process nor another session. -/
def Isolates (process : Process) (happening : Happening) : Prop :=
  ¬ (process.step config happening).Crashed ∧ ∀ other, other ≠ happening.client →
    (process.step config happening).sessions.get? other = process.sessions.get? other

/-- The failure is one that the client's handler listens to. -/
def Attends (process : Process) : Happening → Prop
  | .event client event => ∀ session, process.sessions.get? client = some session →
      session.Attends config event
  | _ => True

variable {config} {process : Process}

theorem crashed_iff : process.Crashed ↔
    ∃ client session, process.sessions.get? client = some session ∧ session.faults ≠ [] := by
  constructor
  · rintro ⟨⟨client, session⟩, hentry, hfaults⟩
    exact ⟨client, session, get?_eq_some_iff.2 hentry, hfaults⟩
  · rintro ⟨client, session, hsession, hfaults⟩
    exact ⟨(client, session), get?_eq_some_iff.1 hsession, hfaults⟩

/-- Every session is watched. -/
def Watched (process : Process) : Prop :=
  ∀ client session, process.sessions.get? client = some session → session.Watched

theorem Watched.not_crashed (h : process.Watched) : ¬ process.Crashed := by
  intro hcrashed
  obtain ⟨client, session, hsession, hfaults⟩ := crashed_iff.1 hcrashed
  exact hfaults (h client session hsession).faults

theorem watched_empty : Watched {} := by
  intro client session hsession
  cases hsession

theorem Watched.enter (h : process.Watched) (client : ℕ) {session : Session}
    (hsession : session.Watched) : (process.enter client session).Watched := by
  unfold Process.enter
  split_ifs
  · exact h
  · intro other found hfound
    by_cases hother : other = client
    · subst hother
      rw [get?_set_self] at hfound
      cases hfound
      exact hsession
    · rw [get?_set_of_ne _ hother] at hfound
      exact h other found hfound

theorem get?_enter_of_ne {client other : ℕ} (hother : other ≠ client) (session : Session) :
    (process.enter client session).sessions.get? other = process.sessions.get? other := by
  unfold enter
  split_ifs
  · rfl
  · exact get?_set_of_ne _ hother _

theorem get?_step_of_ne {other : ℕ} (hother : other ≠ happening.client) :
    (process.step config happening).sessions.get? other = process.sessions.get? other := by
  unfold step
  split_ifs
  · rfl
  · cases happening with
    | accepted client streamId tunnelId targetId | requested client request requestId freshId
    | upgraded client request httpVersion head streamId => exact get?_enter_of_ne hother _
    | event client event => exact get?_update_of_ne _ hother _

theorem Watched.step (h : process.Watched) (hattends : process.Attends config happening) :
    (process.step config happening).Watched := by
  unfold Process.step
  rw [if_neg h.not_crashed]
  cases happening with
  | accepted client streamId tunnelId targetId =>
    exact h.enter client TcpSession.watched_new
  | requested client request requestId freshId =>
    exact h.enter client (RequestSession.watched_arrive config request requestId freshId)
  | upgraded client request httpVersion head streamId =>
    exact h.enter client (UpgradeSession.watched_arrive config request httpVersion head streamId)
  | event client event =>
    intro other found hfound
    by_cases hother : other = client
    · subst hother
      rw [get?_update_self] at hfound
      obtain ⟨session, hsession, rfl⟩ := Option.map_eq_some_iff.1 hfound
      exact ((h other session hsession).step_iff).1 (hattends session hsession)
    · rw [get?_update_of_ne _ hother] at hfound
      exact h other found hfound

theorem Watched.crashed_step (h : process.Watched) (hnot : ¬ process.Attends config happening) :
    (process.step config happening).Crashed := by
  cases happening with
  | accepted client streamId tunnelId targetId | requested client request requestId freshId
  | upgraded client request httpVersion head streamId => exact absurd trivial hnot
  | event client event =>
    simp only [Attends, not_forall] at hnot
    obtain ⟨session, hsession, hunheard⟩ := hnot
    apply crashed_iff.2
    refine ⟨client, session.step config event, ?_,
      ((h client session hsession).step_iff).2 hunheard⟩
    unfold Process.step
    rw [if_neg h.not_crashed]
    rw [get?_update_self, hsession]
    rfl

/-- One client's failures stay its own along a run exactly when its handler listens to
each of them. -/
theorem isolates_iff (config : Config) (happenings : List Happening) :
    Along (step config) (Isolates config) {} happenings ↔
      Along (step config) (Attends config) {} happenings := by
  apply @along_iff_of_invariant _ _ (step config) _ _ Watched
  · intro process happening h
    constructor
    · intro hisolates
      by_contra hnot
      exact hisolates.1 (h.crashed_step hnot)
    · intro hattends
      exact ⟨(h.step hattends).not_crashed, fun other hother => get?_step_of_ne hother⟩
  · exact fun process happening h hattends => h.step hattends
  · exact watched_empty

/-- The Relay refuses the connection for one client, and another one loses its session. -/
theorem not_isolates_refused :
    ¬ ∀ happenings, Along (step plainConfig) (Isolates plainConfig) {} happenings := by
  intro h
  have hrun := h [.accepted 1 "s1" (some (.str "t1")) none, .accepted 2 "s2" (some (.str "t1")) none,
    .event 1 (.socket .relayFailed)]
  exact hrun.2.2.1.1 (by decide +kernel)

end Process

end Tunnara.Edge
