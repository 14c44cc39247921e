/-
# What a connection leaves behind

Nothing is left exactly along the runs in which no connection leaves anything: a handshake
succeeds when no interval is set any more, a connection is made, and closes, while nothing is
listed, and a local socket hands something out while the connection it was opened for is the
current one and takes it.
-/

import Tunnara.Agent.Runtime

namespace Tunnara.Agent

open Relay Edge Transition OrdMap

namespace Runtime

/-- One heartbeat interval at most, and every entry is of the current connection. -/
structure Clean (m : Runtime) : Prop where
  heartbeats : m.intervals.length ≤ 1
  streams : ∀ key name, m.streams.get? key = some name →
    ∃ socket, m.streamSockets.get? name = some socket ∧ m.connection = some socket.connection
  sessions : ∀ key name, m.udpSessions.get? key = some name →
    ∃ socket, m.sessionSockets.get? name = some socket ∧ m.connection = some socket.connection

/-- The frame is of those that carry or end what a local socket hands out. -/
def carries (frame : Json) : Bool :=
  hasType frame "stream_data" || hasType frame "stream_close" || hasType frame "udp_response"

/-- The frame that an event of a local socket makes, and the connection it is sent on. -/
def produced (m : Runtime) : Event → Option (ℕ × Json)
  | .stream name event =>
    (m.streamSockets.get? name).bind fun socket =>
      if socket.enabled event then
        ((socket.answer event).filter carries).map (socket.connection, ·)
      else none
  | .session name event =>
    (m.sessionSockets.get? name).bind fun socket =>
      if socket.enabled event then
        ((socket.answer event).filter carries).map (socket.connection, ·)
      else none
  | _ => none

/-- What was written to a connection. -/
def sentOn (m : Runtime) (connection : ℕ) : List Json :=
  match m.links.get? connection with
  | none => []
  | some link => link.framed.sent

variable (env : RuntimeEnv)

/-- What a local socket hands out is written to the current connection. -/
def SendsOnCurrent (m : Runtime) (event : Event) : Prop :=
  m.crashed = false → ∀ made, m.produced event = some made →
    ∃ connection, m.connection = some connection ∧
      (m.step env event).sentOn connection = m.sentOn connection ++ [made.2]

/-- Nothing is listed. -/
def Unlisted (m : Runtime) : Prop :=
  (∀ key, m.streams.get? key = none) ∧ ∀ key, m.udpSessions.get? key = none

def Takes (m : Runtime) (connection : ℕ) (frame : Json) : Prop :=
  ∃ link, m.links.get? connection = some link ∧ link.framed.silent = false ∧
    link.framed.ended = false ∧ FramedConnection.Fits env.codec frame

/-- A handshake succeeds when no interval is left, and a connection is made, and closes,
while nothing is listed. -/
def LeavesNothing (m : Runtime) : Event → Prop
  | .connected => m.phase = .connecting → m.Unlisted
  | .greeted => ∀ connection, m.phase = .handshake connection →
      m.readable connection = true → m.intervals = []
  | .relayClosed connection => m.phase = .serving connection →
      (m.links.get? connection).any (fun link => !link.gone) = true → m.Unlisted
  | _ => True

/-- A local socket hands something out only while its connection is the current one and
takes it. -/
def Tidy (m : Runtime) (event : Event) : Prop :=
  m.crashed = false → m.LeavesNothing event ∧
    ∀ made, m.produced event = some made → m.connection = some made.1 ∧ m.Takes env made.1 made.2

/-! ## What sending leaves alone -/

/-- Nothing that `Clean` reads is changed, and no connection is begun. -/
structure SameLists (m m' : Runtime) : Prop where
  clock : m'.clock = m.clock
  connection : m'.connection = m.connection
  intervals : m'.intervals = m.intervals
  streams : m'.streams = m.streams
  udpSessions : m'.udpSessions = m.udpSessions
  streamSockets : m'.streamSockets = m.streamSockets
  sessionSockets : m'.sessionSockets = m.sessionSockets
  handshake : ∀ connection, m'.phase = .handshake connection → m.phase = .handshake connection
  serving : ∀ connection, m'.phase = .serving connection → m.phase = .serving connection

theorem SameLists.refl (m : Runtime) : SameLists m m :=
  ⟨rfl, rfl, rfl, rfl, rfl, rfl, rfl, fun _ h => h, fun _ h => h⟩

variable {m' : Runtime} {connection : ℕ} {m : Runtime}

theorem SameLists.trans {m'' : Runtime} (h : SameLists m m') (h' : SameLists m' m'') :
    SameLists m m'' where
  clock := h'.clock.trans h.clock
  connection := h'.connection.trans h.connection
  intervals := h'.intervals.trans h.intervals
  streams := h'.streams.trans h.streams
  udpSessions := h'.udpSessions.trans h.udpSessions
  streamSockets := h'.streamSockets.trans h.streamSockets
  sessionSockets := h'.sessionSockets.trans h.sessionSockets
  handshake c hc := h.handshake c (h'.handshake c hc)
  serving c hc := h.serving c (h'.serving c hc)

theorem sameLists_links (m : Runtime) (links : OrdMap ℕ Link) :
    SameLists m { m with links := links } :=
  ⟨rfl, rfl, rfl, rfl, rfl, rfl, rfl, fun _ h => h, fun _ h => h⟩

theorem sameLists_crash : SameLists m m.crash :=
  ⟨rfl, rfl, rfl, rfl, rfl, rfl, rfl, fun _ h => h, fun _ h => h⟩

theorem phase_fail : m.fail.phase ≠ .handshake connection ∧ m.fail.phase ≠ .serving connection := by
  unfold fail
  split <;> exact ⟨by simp, by simp⟩

theorem sameLists_fail : SameLists m m.fail :=
  ⟨rfl, rfl, rfl, rfl, rfl, rfl, rfl, fun _ h => absurd h phase_fail.1,
    fun _ h => absurd h phase_fail.2⟩

theorem sameLists_emitError : SameLists m (m.emitError connection) := by
  unfold emitError
  cases m.links.get? connection with
  | none => exact .refl m
  | some link =>
    dsimp only
    split
    · split
      · exact (sameLists_links m _).trans sameLists_fail
      · exact sameLists_links m _
    · exact sameLists_crash

theorem sameLists_send {payload : Json} : SameLists m (m.send env connection payload) := by
  unfold send
  cases m.links.get? connection with
  | none => exact .refl m
  | some link =>
    dsimp only
    cases link.framed.send env.codec payload with
    | error error => exact sameLists_crash
    | ok effect =>
      dsimp only
      split
      · exact (sameLists_links m _).trans sameLists_emitError
      · exact sameLists_links m _

theorem sameLists_answered (connection : ℕ) (frame? : Option Json) (m : Runtime) :
    SameLists m (m.answered env connection frame?) := by
  cases frame? with
  | none => exact .refl m
  | some frame => exact sameLists_send env

theorem sameLists_sendDatagram {opening frame : Json} :
    SameLists m (m.sendDatagram env opening frame) := by
  unfold sendDatagram
  split
  · exact sameLists_crash
  · split
    · exact sameLists_crash
    · exact .refl m

theorem sameLists_writeInitial {socket : StreamSocket} :
    SameLists m (m.writeInitial env socket) := by
  unfold writeInitial
  split
  · exact sameLists_crash
  · exact .refl m

theorem Clean.of_same (h : Clean m) (hsame : SameLists m m') : Clean m' := by
  constructor
  case heartbeats => rw [hsame.intervals]; exact h.heartbeats
  case streams =>
    rw [hsame.streams, hsame.streamSockets, hsame.connection]
    exact h.streams
  case sessions =>
    rw [hsame.udpSessions, hsame.sessionSockets, hsame.connection]
    exact h.sessions

/-! ## What is written -/

theorem sentOn_emitError (connection other : ℕ) (m : Runtime) :
    (m.emitError connection).sentOn other = m.sentOn other := by
  unfold emitError
  cases hlink : m.links.get? connection with
  | none => rfl
  | some link =>
    dsimp only
    have hset : ({ m with
        links := m.links.set connection { link with heard := false } } : Runtime).sentOn other =
        m.sentOn other := by
      unfold sentOn
      by_cases hother : other = connection
      · subst hother
        rw [get?_set_self, hlink]
      · rw [get?_set_of_ne m.links hother]
    split
    · split
      · exact hset
      · exact hset
    · rfl

variable {env}

theorem sentOn_send_of_ne {other : ℕ} (hne : other ≠ connection) (payload : Json) (m : Runtime)
    : (m.send env connection payload).sentOn other = m.sentOn other := by
  unfold send
  cases m.links.get? connection with
  | none => rfl
  | some link =>
    dsimp only
    cases link.framed.send env.codec payload with
    | error error => rfl
    | ok effect =>
      have hset : ({ m with
          links := m.links.set connection
            { link with framed := effect.connection } } : Runtime).sentOn other =
          m.sentOn other := by
        unfold sentOn
        rw [get?_set_of_ne m.links hne]
      dsimp only
      split
      · rw [sentOn_emitError, hset]
      · exact hset

theorem sentOn_send_self_iff {payload : Json} :
    (m.send env connection payload).sentOn connection = m.sentOn connection ++ [payload] ↔
      m.Takes env connection payload := by
  have happend : ∀ frames : List Json, frames ≠ frames ++ [payload] := fun frames h => by
    simpa using congrArg List.length h
  unfold send Takes
  cases hlink : m.links.get? connection with
  | none =>
    have hnone : m.sentOn connection = [] := by rw [sentOn, hlink]
    simp [hnone]
  | some link =>
    have hsome : m.sentOn connection = link.framed.sent := by rw [sentOn, hlink]
    dsimp only
    cases hsend : link.framed.send env.codec payload with
    | error error =>
      have hnot := (FramedConnection.send_eq_error_iff.1 ⟨error, hsend⟩).2
      refine iff_of_false (happend _) ?_
      rintro ⟨other, -, -, -, hfits⟩
      exact hnot hfits
    | ok effect =>
      have hset : ({ m with
          links := m.links.set connection
            { link with framed := effect.connection } } : Runtime).sentOn connection =
          effect.connection.sent := by
        rw [sentOn, get?_set_self]
      dsimp only
      rcases FramedConnection.send_cases hsend with ⟨hsilent, heffect⟩ |
        ⟨hsilent, hfits, hended, heffect⟩ | ⟨hsilent, hfits, hended, heffect⟩
      · subst heffect
        rw [if_neg (by simp), hset, hsome]
        refine iff_of_false (happend _) ?_
        rintro ⟨other, hother, hopen, -⟩
        cases hother
        rw [hsilent] at hopen
        cases hopen
      · subst heffect
        rw [if_pos rfl, sentOn_emitError, hset, hsome]
        refine iff_of_false (happend _) ?_
        rintro ⟨other, hother, -, hopen, -⟩
        cases hother
        rw [hended] at hopen
        cases hopen
      · subst heffect
        rw [if_neg (by simp), hset, hsome]
        exact iff_of_true rfl ⟨link, rfl, hsilent, hended, hfits⟩

theorem sentOn_afterStream {name : ℕ} {socket : StreamSocket} {event : StreamEvent} :
    (m.afterStream env name socket event).sentOn connection = m.sentOn connection := by
  unfold afterStream writeInitial
  dsimp only
  split
  · split <;> rfl
  · rfl

variable {event : Event}

theorem sentOn_handle {made : ℕ × Json} (h : m.produced event = some made) :
    (m.handle env event).sentOn connection =
      (m.send env made.1 made.2).sentOn connection := by
  cases event with
  | stream name event =>
    obtain ⟨socket, hsocket, h⟩ := Option.bind_eq_some_iff.1 h
    by_cases henabled : socket.enabled event = true
    · rw [if_pos henabled] at h
      obtain ⟨frame, hframe, rfl⟩ := Option.map_eq_some_iff.1 h
      have hanswer := (Option.filter_eq_some_iff.1 hframe).1
      show (m.onStream env name event).sentOn connection = _
      unfold onStream
      rw [hsocket]
      dsimp only
      rw [if_pos henabled, hanswer]
      split
      · rfl
      · exact sentOn_afterStream
    · rw [if_neg henabled] at h
      cases h
  | session name event =>
    obtain ⟨socket, hsocket, h⟩ := Option.bind_eq_some_iff.1 h
    by_cases henabled : socket.enabled event = true
    · rw [if_pos henabled] at h
      obtain ⟨frame, hframe, rfl⟩ := Option.map_eq_some_iff.1 h
      have hanswer := (Option.filter_eq_some_iff.1 hframe).1
      show (m.onSession env name event).sentOn connection = _
      unfold onSession
      rw [hsocket]
      dsimp only
      rw [if_pos henabled, hanswer]
      show Runtime.sentOn (if (m.send env socket.connection frame).crashed = true then
        m.send env socket.connection frame else _) connection = _
      split
      · rfl
      · rfl
    · rw [if_neg henabled] at h
      cases h
  | _ => cases h

theorem sendsOnCurrent_iff : m.SendsOnCurrent env event ↔
    (m.crashed = false → ∀ made, m.produced event = some made →
      m.connection = some made.1 ∧ m.Takes env made.1 made.2) := by
  refine forall_congr' fun hrunning => forall_congr' fun made => forall_congr' fun hmade => ?_
  have hstep : ∀ connection, (m.step env event).sentOn connection =
      (m.send env made.1 made.2).sentOn connection := fun connection => by
    unfold step
    rw [hrunning, if_neg (by simp)]
    exact sentOn_handle hmade
  constructor
  · rintro ⟨connection, hconnection, hsent⟩
    rw [hstep] at hsent
    by_cases hsame : connection = made.1
    · subst hsame
      exact ⟨hconnection, sentOn_send_self_iff.1 hsent⟩
    · rw [sentOn_send_of_ne hsame] at hsent
      simpa using congrArg List.length hsent
  · rintro ⟨hconnection, htakes⟩
    exact ⟨made.1, hconnection, by rw [hstep]; exact sentOn_send_self_iff.2 htakes⟩

/-! ## One event -/

/-- The runtime works on the current connection. -/
structure WellFormed (bound : ℕ) (m : Runtime) : Prop where
  handshake : ∀ connection, m.phase = .handshake connection → m.connection = some connection
  serving : ∀ connection, m.phase = .serving connection → m.connection = some connection
  named : ∀ connection, m.connection = some connection → connection < bound

theorem WellFormed.of_same {bound : ℕ} (h : WellFormed bound m) (hsame : SameLists m m') :
    WellFormed bound m' where
  handshake c hc := hsame.connection.trans (h.handshake c (hsame.handshake c hc))
  serving c hc := hsame.connection.trans (h.serving c (hsame.serving c hc))
  named c hc := h.named c (hsame.connection.symm.trans hc)

theorem WellFormed.mono {bound : ℕ} (h : WellFormed bound m) : WellFormed (bound + 1) m :=
  ⟨h.handshake, h.serving, fun c hc => (h.named c hc).trans (Nat.lt_succ_self bound)⟩

theorem clean_of_unlisted (hintervals : m.intervals.length ≤ 1) (hunlisted : m.Unlisted) :
    Clean m where
  heartbeats := hintervals
  streams key name h := by
    rw [hunlisted.1 key] at h
    cases h
  sessions key name h := by
    rw [hunlisted.2 key] at h
    cases h

theorem clean_iff_of_connection_ne (hclean : Clean m) (hne : m'.connection ≠ m.connection)
    (hintervals : m'.intervals.length ≤ m.intervals.length) (hstreams : m'.streams = m.streams)
    (hsessions : m'.udpSessions = m.udpSessions)
    (hstreamSockets : m'.streamSockets = m.streamSockets)
    (hsessionSockets : m'.sessionSockets = m.sessionSockets) : Clean m' ↔ m.Unlisted := by
  constructor
  · intro h
    constructor
    · intro key
      cases hname : m.streams.get? key with
      | none => rfl
      | some name =>
        obtain ⟨socket, hsocket, hconnection⟩ := h.streams key name (by rw [hstreams, hname])
        obtain ⟨other, hother, hprior⟩ := hclean.streams key name hname
        rw [hstreamSockets, hother] at hsocket
        cases hsocket
        exact absurd (hconnection.trans hprior.symm) hne
    · intro key
      cases hname : m.udpSessions.get? key with
      | none => rfl
      | some name =>
        obtain ⟨socket, hsocket, hconnection⟩ := h.sessions key name (by rw [hsessions, hname])
        obtain ⟨other, hother, hprior⟩ := hclean.sessions key name hname
        rw [hsessionSockets, hother] at hsocket
        cases hsocket
        exact absurd (hconnection.trans hprior.symm) hne
  · intro h
    apply clean_of_unlisted (hintervals.trans hclean.heartbeats)
    unfold Unlisted
    rw [hstreams, hsessions]
    exact h

section Connection

theorem connection_connected : (m.connected env).connection = some m.clock := by
  unfold connected
  split
  · split <;> rfl
  · rfl

theorem clean_connected_iff (hclean : Clean m) (hformed : WellFormed m.clock m) :
    Clean (m.connected env) ↔ m.Unlisted := by
  have hne : (m.connected env).connection ≠ m.connection := fun h => by
    rw [connection_connected] at h
    exact absurd (hformed.named m.clock h.symm) (Nat.lt_irrefl _)
  apply clean_iff_of_connection_ne hclean hne
  all_goals
    unfold connected
    split
    · split <;> rfl
    · rfl

theorem wellFormed_connected : WellFormed (m.clock + 1) (m.connected env) := by
  have hphase : ∀ connection, (m.connected env).phase ≠ .serving connection ∧
      ((m.connected env).phase = .handshake connection → connection = m.clock) := by
    intro connection
    unfold connected
    split
    · split
      · exact ⟨phase_fail.2, fun h => absurd h phase_fail.1⟩
      · exact ⟨by simp, fun h => by cases h; rfl⟩
    · exact ⟨phase_fail.2, fun h => absurd h phase_fail.1⟩
  constructor
  case handshake =>
    intro connection h
    rw [connection_connected, (hphase connection).2 h]
  case serving => exact fun connection h => absurd h (hphase connection).1
  case named =>
    intro connection h
    rw [connection_connected] at h
    cases h
    exact Nat.lt_succ_self _

theorem clean_greeted_iff (hclean : Clean m) (connection : ℕ) :
    Clean (m.greeted connection) ↔ m.intervals = [] := by
  have hlength : (m.greeted connection).intervals.length = m.intervals.length + 1 := by
    simp [greeted]
  constructor
  · intro h
    have hheartbeats := h.heartbeats
    exact List.length_eq_zero_iff.1 (by omega)
  · intro h
    refine ⟨?_, hclean.streams, hclean.sessions⟩
    rw [hlength, h]
    rfl

theorem clearHeartbeat_length {m : Runtime} :
    m.clearHeartbeat.intervals.length ≤ m.intervals.length :=
  List.length_filter_le ..

theorem clean_finished_iff (hclean : Clean m) (hcurrent : m.connection = some connection)
    : Clean m.finished ↔ m.Unlisted := by
  have hne : m.finished.connection ≠ m.connection := by
    rw [hcurrent]
    exact nofun
  exact clean_iff_of_connection_ne hclean hne clearHeartbeat_length rfl rfl rfl rfl

theorem wellFormed_finished {bound : ℕ} {m : Runtime} : WellFormed bound m.finished := by
  have hphase : ∀ connection, m.finished.phase ≠ .handshake connection ∧
      m.finished.phase ≠ .serving connection := by
    intro connection
    unfold finished
    split <;> exact ⟨by simp, by simp⟩
  exact ⟨fun c h => absurd h (hphase c).1, fun c h => absurd h (hphase c).2, fun c h => nomatch h⟩

end Connection

/-- Both at once, for the events that keep them. -/
def Kept (bound : ℕ) (m : Runtime) : Prop := Clean m ∧ WellFormed bound m

theorem Kept.of_same {bound : ℕ} (h : Kept bound m) (hsame : SameLists m m') : Kept bound m' :=
  ⟨h.1.of_same hsame, h.2.of_same hsame⟩

section Lists

variable {bound : ℕ}

section

variable (h : Kept bound m)
include h

section

variable (hcurrent : m.connection = some connection)
include hcurrent

theorem Kept.streamOpen (frame : Json) : Kept bound (m.streamOpen env connection frame) := by
  unfold Runtime.streamOpen
  split
  · exact h.of_same sameLists_crash
  · exact h.of_same (sameLists_send env)
  · split
    · exact h.of_same sameLists_crash
    · refine ⟨⟨h.1.heartbeats, ?_, h.1.sessions⟩, h.2.handshake, h.2.serving, h.2.named⟩
      intro key name hname
      by_cases hnew : name = m.clock
      · subst hnew
        exact ⟨_, get?_set_self .., hcurrent⟩
      · rw [get?_set] at hname
        split at hname
        · cases hname
          exact absurd rfl hnew
        · obtain ⟨socket, hsocket, hconnection⟩ := h.1.streams key name hname
          exact ⟨socket, by rw [get?_set_of_ne _ hnew]; exact hsocket, hconnection⟩

theorem Kept.udpDatagram (frame : Json) : Kept bound (m.udpDatagram env connection frame) := by
  unfold Runtime.udpDatagram
  split
  · exact h.of_same sameLists_crash
  · exact h.of_same (sameLists_send env)
  · dsimp only
    split
    · exact h.of_same (sameLists_sendDatagram env)
    · refine Kept.of_same ?_ (sameLists_sendDatagram env)
      refine ⟨⟨h.1.heartbeats, h.1.streams, ?_⟩, h.2.handshake, h.2.serving, h.2.named⟩
      intro key name hname
      by_cases hnew : name = m.clock
      · subst hnew
        exact ⟨_, get?_set_self .., hcurrent⟩
      · rw [get?_set] at hname
        split at hname
        · cases hname
          exact absurd rfl hnew
        · obtain ⟨socket, hsocket, hconnection⟩ := h.1.sessions key name hname
          exact ⟨socket, by rw [get?_set_of_ne _ hnew]; exact hsocket, hconnection⟩

omit hcurrent in
theorem Kept.closeSession (key : Key) : Kept bound (m.closeSession key) := by
  unfold Runtime.closeSession
  split
  · exact h
  · rename_i closed _
    refine ⟨⟨h.1.heartbeats, h.1.streams, ?_⟩, h.2.handshake, h.2.serving, h.2.named⟩
    intro other name hname
    obtain ⟨socket, hsocket, hconnection⟩ := h.1.sessions other name (get?_of_get?_erase hname).2
    by_cases hsame : name = closed
    · subst hsame
      exact ⟨{ socket with closed := true }, by rw [get?_update_self, hsocket]; rfl, hconnection⟩
    · exact ⟨socket, by rw [get?_update_of_ne _ hsame]; exact hsocket, hconnection⟩

theorem Kept.onFrame (frame : Json) : Kept bound (m.onFrame env connection frame) := by
  unfold Runtime.onFrame
  split_ifs
  · exact h.of_same sameLists_crash
  · exact h.streamOpen hcurrent frame
  · split
    · exact h.of_same sameLists_crash
    · exact h
  · exact ⟨⟨h.1.heartbeats, fun key name hname => h.1.streams key name (get?_of_get?_erase hname).2,
      h.1.sessions⟩, h.2.handshake, h.2.serving, h.2.named⟩
  · exact h.udpDatagram hcurrent frame
  · exact h.closeSession _
  · exact h

end

theorem Kept.afterStream {name : ℕ} {socket : StreamSocket}
    (hsocket : m.streamSockets.get? name = some socket) (event : StreamEvent) :
    Kept bound (m.afterStream env name socket event) := by
  have hchanged : Kept bound { m with
      streamSockets := m.streamSockets.set name (socket.after event)
      streams := if event.unlists then m.streams.erase socket.key else m.streams } := by
    refine ⟨⟨h.1.heartbeats, ?_, h.1.sessions⟩, h.2.handshake, h.2.serving, h.2.named⟩
    intro key listed hlisted
    have hprior : m.streams.get? key = some listed := by
      split at hlisted
      · exact (get?_of_get?_erase hlisted).2
      · exact hlisted
    obtain ⟨other, hother, hconnection⟩ := h.1.streams key listed hprior
    by_cases hsame : listed = name
    · subst hsame
      rw [hsocket] at hother
      cases hother
      refine ⟨_, get?_set_self .., hconnection.trans ?_⟩
      cases event <;> rfl
    · exact ⟨other, by rw [get?_set_of_ne _ hsame]; exact hother, hconnection⟩
  unfold Runtime.afterStream
  dsimp only
  split
  · exact hchanged.of_same (sameLists_writeInitial env)
  · exact hchanged

theorem Kept.afterSession {name : ℕ} {socket : SessionSocket}
    (hsocket : m.sessionSockets.get? name = some socket) (event : SessionEvent) :
    Kept bound (m.afterSession name socket event) := by
  refine ⟨⟨h.1.heartbeats, h.1.streams, ?_⟩, h.2.handshake, h.2.serving, h.2.named⟩
  intro key listed hlisted
  have hprior : m.udpSessions.get? key = some listed := by
    unfold Runtime.afterSession at hlisted
    split at hlisted
    · exact (get?_of_get?_erase hlisted).2
    · exact hlisted
  obtain ⟨other, hother, hconnection⟩ := h.1.sessions key listed hprior
  by_cases hsame : listed = name
  · subst hsame
    rw [hsocket] at hother
    cases hother
    refine ⟨_, get?_set_self .., hconnection.trans ?_⟩
    cases event <;> rfl
  · exact ⟨other, (get?_set_of_ne _ hsame _).trans hother, hconnection⟩

theorem Kept.onStream (name : ℕ) (event : StreamEvent) :
    Kept bound (m.onStream env name event) := by
  unfold Runtime.onStream
  cases hsocket : m.streamSockets.get? name with
  | none => exact h
  | some socket =>
    dsimp only
    split
    · have hsame := sameLists_answered env socket.connection (socket.answer event) m
      split
      · exact h.of_same hsame
      · exact (h.of_same hsame).afterStream (by rw [hsame.streamSockets]; exact hsocket) event
    · exact h

theorem Kept.onSession (name : ℕ) (event : SessionEvent) :
    Kept bound (m.onSession env name event) := by
  unfold Runtime.onSession
  cases hsocket : m.sessionSockets.get? name with
  | none => exact h
  | some socket =>
    dsimp only
    split
    · have hsame := sameLists_answered env socket.connection (socket.answer event) m
      split
      · exact h.of_same hsame
      · exact (h.of_same hsame).afterSession (by rw [hsame.sessionSockets]; exact hsocket) event
    · exact h

theorem Kept.stop : Kept bound m.stop := by
  constructor
  · apply clean_of_unlisted
    · exact clearHeartbeat_length.trans h.1.heartbeats
    · exact ⟨fun _ => rfl, fun _ => rfl⟩
  · have hphase : ∀ phase, phase ≠ .returned → m.stop.phase = phase → m.phase = phase := by
      intro phase hrunning hstop
      by_cases hdelayed : m.phase = .delayed
      · exact absurd (hstop.symm.trans (if_pos hdelayed)) hrunning
      · exact (if_neg hdelayed).symm.trans hstop
    exact ⟨fun c hc => h.2.handshake c (hphase _ nofun hc),
      fun c hc => h.2.serving c (hphase _ nofun hc), h.2.named⟩

end

end Lists

/-- The events that may leave something behind. -/
def Event.turns : Event → Bool
  | .connected | .greeted | .relayClosed _ => true
  | _ => false

theorem Kept.handle (h : Kept m.clock m) (event : Event) (hevent : event.turns = false) :
    Kept m.clock (m.handle env event) := by
  cases event with
  | connected | greeted | relayClosed connection => cases hevent
  | unreachable =>
    show Kept m.clock (if m.phase = .connecting then m.fail else m)
    split
    · exact h.of_same sameLists_fail
    · exact h
  | refused =>
    simp only [Runtime.handle]
    split
    · exact h.of_same sameLists_fail
    · exact h
  | relayEnded connection => exact h.of_same (sameLists_links m _)
  | relayFailed connection =>
    simp only [Runtime.handle]
    split
    · exact h.of_same ((sameLists_links m _).trans sameLists_emitError)
    · exact h
  | frame frame =>
    simp only [Runtime.handle]
    split
    · rename_i connection hserving
      split
      · exact h.onFrame (h.2.serving connection hserving) frame
      · exact h
    · exact h
  | beat interval =>
    simp only [Runtime.handle]
    split
    · exact h.of_same (sameLists_send env)
    · exact h
  | retry =>
    simp only [Runtime.handle]
    split
    · refine ⟨⟨h.1.heartbeats, h.1.streams, h.1.sessions⟩, ?_, ?_, h.2.named⟩
      · intro connection hphase
        split at hphase <;> cases hphase
      · intro connection hphase
        dsimp only at hphase
        split at hphase <;> cases hphase
    · exact h
  | stream name event => exact h.onStream name event
  | session name event => exact h.onSession name event
  | stop => exact h.stop

theorem clean_handle_iff (h : Kept m.clock m) :
    Clean (m.handle env event) ↔ m.LeavesNothing event := by
  cases event with
  | connected =>
    by_cases hphase : m.phase = .connecting
    · simp only [handle, LeavesNothing, if_pos hphase, forall_prop_of_true hphase]
      exact clean_connected_iff h.1 h.2
    · simp only [handle, LeavesNothing, if_neg hphase]
      exact iff_of_true h.1 fun hconnecting => absurd hconnecting hphase
  | greeted =>
    simp only [handle]
    split
    · rename_i connection hphase
      split
      · rename_i hreadable
        rw [clean_greeted_iff h.1]
        exact ⟨fun hnone _ _ _ => hnone, fun hnone => hnone connection hphase hreadable⟩
      · rename_i hnot
        refine iff_of_true h.1 fun other hother hreadable => ?_
        rw [hphase] at hother
        cases hother
        exact absurd hreadable hnot
    · rename_i hnot
      exact iff_of_true h.1 fun connection hphase => absurd hphase (hnot connection)
  | relayClosed connection =>
    simp only [handle]
    split
    · rename_i hopen
      have hlinks := sameLists_links m (m.links.update connection fun link =>
        { link with gone := true, framed.closed := true, framed.destroyed := true })
      split
      · rename_i hphase
        refine iff_of_true (h.1.of_same (hlinks.trans sameLists_fail)) fun hserving => ?_
        rw [hphase] at hserving
        cases hserving
      · split
        · rename_i hserving
          rw [clean_finished_iff (h.1.of_same hlinks) (h.2.serving connection hserving)]
          exact ⟨fun hnone _ _ => hnone, fun hnone => hnone hserving hopen⟩
        · rename_i hnot
          exact iff_of_true (h.1.of_same hlinks) fun hserving => absurd hserving hnot
    · rename_i hnot
      exact iff_of_true h.1 fun _ hopen => absurd hopen hnot
  | _ => exact iff_of_true (h.handle _ rfl).1 trivial

theorem wellFormed_handle (h : Kept m.clock m) : WellFormed (m.clock + 1) (m.handle env event) := by
  cases event with
  | connected =>
    show WellFormed _ (if m.phase = .connecting then m.connected env else m)
    split
    · exact wellFormed_connected
    · exact h.2.mono
  | greeted =>
    simp only [handle]
    split
    · rename_i connection hphase
      split
      · constructor
        case handshake => exact fun _ hother => nomatch hother
        case serving =>
          intro other hother
          cases hother
          exact h.2.handshake connection hphase
        case named => exact h.2.mono.named
      · exact h.2.mono
    · exact h.2.mono
  | relayClosed connection =>
    simp only [handle]
    split
    · have hlinks := sameLists_links m (m.links.update connection fun link =>
        { link with gone := true, framed.closed := true, framed.destroyed := true })
      split
      · exact (h.2.of_same (hlinks.trans sameLists_fail)).mono
      · split
        · exact wellFormed_finished
        · exact (h.2.of_same hlinks).mono
    · exact h.2.mono
  | _ => exact (h.handle _ rfl).2.mono

/-! ## Runs -/

theorem wellFormed_step (h : Kept m.clock m) :
    WellFormed (m.step env event).clock (m.step env event) := by
  unfold step
  split
  · exact h.2
  · have hnext : WellFormed (m.clock + 1) (m.handle env event) := wellFormed_handle h
    exact ⟨hnext.handshake, hnext.serving, hnext.named⟩

theorem clean_step_iff (h : Kept m.clock m) (event : Event) :
    Clean (m.step env event) ↔ (m.crashed = false → m.LeavesNothing event) := by
  unfold step
  cases hcrashed : m.crashed with
  | true => exact iff_of_true h.1 fun hrunning => nomatch hrunning
  | false =>
    rw [if_neg (by simp), forall_prop_of_true rfl, ← clean_handle_iff h]
    exact ⟨fun hclean => ⟨hclean.heartbeats, hclean.streams, hclean.sessions⟩,
      fun hclean => ⟨hclean.heartbeats, hclean.streams, hclean.sessions⟩⟩

theorem tidy_iff (h : Kept m.clock m) :
    Clean (m.step env event) ∧ m.SendsOnCurrent env event ↔ m.Tidy env event := by
  rw [clean_step_iff h, sendsOnCurrent_iff]
  exact forall_and.symm

variable (env)

/-- In every run nothing is left behind at any moment, and what the local sockets hand out
is sent on the current connection, exactly when no connection leaves anything. -/
theorem noResidue_run_iff (events : List Event) :
    Throughout (step env) Clean {} events ∧ Along (step env) (SendsOnCurrent env) {} events ↔
      Along (step env) (Tidy env) {} events :=
  throughout_and_along_iff (fun _ _ hformed hclean => tidy_iff ⟨hclean, hformed⟩)
    (fun _ _ hformed hclean => wellFormed_step ⟨hclean, hformed⟩)
    ⟨fun _ h => (nomatch h), fun _ h => (nomatch h), fun _ h => (nomatch h)⟩
    ⟨Nat.zero_le 1, fun _ _ h => (nomatch h), fun _ _ h => (nomatch h)⟩

def greeting : Json := frameOf [("type", text "agent_hello"), ("agentId", text "a1")]

def datagram : Json :=
  frameOf [("type", text "udp_datagram"), ("sessionId", text "s1"), ("targetHost", text "::1"),
    ("targetPort", some (.num 53)), ("dataBase64", text "aGk=")]

def reconnectEnv : RuntimeEnv where
  toEnv := .plain [greeting, datagram]
  host := .plain
  allowRemoteTargets := false
  signs := true
  hello _ := greeting
  heartbeat _ := frameOf [("type", text "heartbeat")]
  connectError _ := none
  sendError _ := none

def response : Json :=
  frameOf [("type", text "udp_response"), ("sessionId", text "s1"),
    ("dataBase64", text (Base64.encode [104, 105]))]

def reconnect : List Event :=
  [.connected, .greeted, .frame datagram, .relayFailed 0, .relayClosed 0, .retry, .connected,
    .greeted, .frame datagram]

/-- Both intervals are set, and the answer goes to the connection that has failed. -/
theorem not_noResidue_reconnect :
    ¬ Throughout (step reconnectEnv) Clean {} reconnect ∧
    ¬ Along (step reconnectEnv) (SendsOnCurrent reconnectEnv) {}
      (reconnect ++ [.session 2 (.message [104, 105])]) := by
  constructor
  · intro h
    have hheartbeats : (run (step reconnectEnv) {} reconnect).intervals.length ≤ 1 :=
      h.last.heartbeats
    exact absurd hheartbeats (by decide +kernel)
  · intro h
    have hsends := sendsOnCurrent_iff.1 (along_append.1 h).2.1
    have hcurrent := (hsends (by decide +kernel) (0, response) (by decide +kernel)).1
    exact absurd hcurrent (by decide +kernel)

end Runtime

end Tunnara.Agent
