/-
# The records of a manager

Whatever runs of `sync` overlap, an entry stands under the port of its socket, no two
sockets are bound to one port, and a socket whose bind is awaited has no entry yet. Each
piece of a run keeps that; this module also says what each does to the bound sockets and
to the entries.
-/

import Tunnara.Edge.ListenerSync

namespace Tunnara.Edge.Manager

open Control Transition OrdMap

/-! ## What the pieces of a run change -/

variable {transport : Transport} {m : Manager}

/-- What holds of the records of a manager whatever its runs do. -/
structure WellFormed (m : Manager) : Prop where
  entry : ∀ port listener, m.listeners.get? port = some listener →
    ∃ socket, m.sockets.get? listener.socket = some socket ∧ socket.port = port
  distinct : ∀ id other port, m.Bound id port → m.Bound other port → id = other
  pending : ∀ r id port route rest, m.runs.get? r = some (.bind id port route rest) →
    (∃ socket, m.sockets.get? id = some socket ∧ socket.port = port ∧ socket.bound = false) ∧
      ∀ port' listener, m.listeners.get? port' = some listener → listener.socket ≠ id
  separate : ∀ r r' id port port' route route' rest rest',
    m.runs.get? r = some (.bind id port route rest) →
    m.runs.get? r' = some (.bind id port' route' rest') → r = r'
  sockets_lt : ∀ id socket, m.sockets.get? id = some socket → id < m.clock
  runs_lt : ∀ r awaits, m.runs.get? r = some awaits → r < m.clock

/-- Every bound socket has its entry. -/
def Listed (m : Manager) : Prop :=
  ∀ id port, m.Bound id port → ∃ listener, m.listeners.get? port = some listener ∧
    listener.socket = id

variable {port : ℕ}

theorem Bound.port_eq {id : ℕ} (h : m.Bound id port) {socket : ListenSocket}
    (hsocket : m.sockets.get? id = some socket) : socket.port = port := by
  obtain ⟨own, hown, -, hport⟩ := h
  rw [hsocket] at hown
  cases hown
  exact hport

theorem WellFormed.recorded_iff (h : m.WellFormed) : m.Recorded ↔ m.Listed := by
  constructor
  · intro hrecorded id port hbound
    obtain ⟨⟨port', listener⟩, ⟨hlistener, hid⟩, -⟩ := hrecorded.listed id port hbound
    obtain ⟨socket, hsocket, hport⟩ := h.entry port' listener hlistener
    subst hid
    have hsame : port' = port := hport.symm.trans (hbound.port_eq hsocket)
    subst hsame
    exact ⟨listener, hlistener, rfl⟩
  · intro hlisted
    refine ⟨fun id port hbound => ?_, h.distinct⟩
    obtain ⟨listener, hlistener, rfl⟩ := hlisted id port hbound
    refine ⟨(port, listener), ⟨hlistener, rfl⟩, ?_⟩
    rintro ⟨port', other⟩ ⟨hother, hid⟩
    obtain ⟨socket, hsocket, hport⟩ := h.entry port' other hother
    rw [hid] at hsocket
    have hsame : port' = port := hport.symm.trans (hbound.port_eq hsocket)
    subst hsame
    rw [hother] at hlistener
    cases hlistener
    rfl

@[simp]
theorem listeners_publishFrom (r : ℕ) (rest : List (ℕ × Route)) :
    (publishFrom r rest m).listeners = m.listeners := by
  induction rest generalizing m with
  | nil => rfl
  | cons first rest ih =>
    unfold publishFrom
    split_ifs
    · exact ih
    · rfl

theorem WellFormed.get?_clock (h : m.WellFormed) : m.sockets.get? m.clock = none := by
  rw [Option.eq_none_iff_forall_ne_some]
  intro socket hsocket
  exact Nat.lt_irrefl _ (h.sockets_lt _ _ hsocket)

theorem WellFormed.ne_clock (h : m.WellFormed) {id : ℕ} {socket : ListenSocket}
    (hsocket : m.sockets.get? id = some socket) : id ≠ m.clock :=
  (h.sockets_lt _ _ hsocket).ne

variable {r : ℕ}

section

variable (h : m.WellFormed)
include h

theorem WellFormed.bound_startBind {port' : ℕ} {route : Route} {rest : List (ℕ × Route)} {id : ℕ} :
    (m.startBind r port' route rest).Bound id port ↔ m.Bound id port := by
  unfold Bound startBind
  by_cases hid : id = m.clock
  · subst hid
    rw [get?_set_self, h.get?_clock]
    simp
  · rw [get?_set_of_ne _ hid]

theorem WellFormed.startBind (hr : r < m.clock) (port : ℕ) (route : Route)
    (rest : List (ℕ × Route)) : (m.startBind r port route rest).WellFormed where
  entry port' listener hlistener := by
    obtain ⟨socket, hsocket, hport⟩ := h.entry port' listener hlistener
    exact ⟨socket, (get?_set_of_ne _ (h.ne_clock hsocket) _).trans hsocket, hport⟩
  distinct id other port' hid hother := by
    rw [h.bound_startBind] at hid hother
    exact h.distinct id other port' hid hother
  pending r' id port' route' rest' hr' := by
    rcases eq_or_ne r' r with rfl | hne
    · have hset := (get?_set_self _ _ _).symm.trans hr'
      cases hset
      refine ⟨⟨_, get?_set_self _ _ _, rfl, rfl⟩, fun port' listener hlistener => ?_⟩
      obtain ⟨socket, hsocket, -⟩ := h.entry port' listener hlistener
      exact h.ne_clock hsocket
    · have hold := (get?_set_of_ne _ hne _).symm.trans hr'
      obtain ⟨⟨socket, hsocket, hsame⟩, hunlisted⟩ := h.pending r' id port' route' rest' hold
      exact ⟨⟨socket, (get?_set_of_ne _ (h.ne_clock hsocket) _).trans hsocket, hsame⟩, hunlisted⟩
  separate r' r'' id port' port'' route' route'' rest' rest'' hr' hr'' := by
    have hnot : ∀ q port route rest, m.runs.get? q ≠ some (.bind m.clock port route rest) := by
      intro q port route rest hq
      obtain ⟨⟨socket, hsocket, -⟩, -⟩ := h.pending q m.clock port route rest hq
      exact h.ne_clock hsocket rfl
    rcases eq_or_ne r' r with rfl | hne
    · rcases eq_or_ne r'' r' with rfl | hne'
      · rfl
      · have hold := (get?_set_of_ne _ hne' _).symm.trans hr''
        have hset := (get?_set_self _ _ _).symm.trans hr'
        cases hset
        exact absurd hold (hnot _ _ _ _)
    · have hold := (get?_set_of_ne _ hne _).symm.trans hr'
      rcases eq_or_ne r'' r with rfl | hne'
      · have hset := (get?_set_self _ _ _).symm.trans hr''
        cases hset
        exact absurd hold (hnot _ _ _ _)
      · have hold' := (get?_set_of_ne _ hne' _).symm.trans hr''
        exact h.separate r' r'' id port' port'' route' route'' rest' rest'' hold hold'
  sockets_lt id socket hsocket := by
    rcases eq_or_ne id m.clock with rfl | hne
    · exact Nat.lt_succ_self _
    · have hold := (get?_set_of_ne _ hne _).symm.trans hsocket
      exact (h.sockets_lt id socket hold).trans (Nat.lt_succ_self _)
  runs_lt r' awaits hr' := by
    rcases eq_or_ne r' r with rfl | hne
    · exact hr.trans (Nat.lt_succ_self _)
    · have hold := (get?_set_of_ne _ hne _).symm.trans hr'
      exact (h.runs_lt r' awaits hold).trans (Nat.lt_succ_self _)

theorem WellFormed.eraseRun :
    WellFormed { m with runs := m.runs.erase r } where
  entry := h.entry
  distinct := h.distinct
  pending r' id port route rest hr' :=
    h.pending r' id port route rest (get?_of_get?_erase hr').2
  separate r' r'' id port port' route route' rest rest' hr' hr'' :=
    h.separate r' r'' id port port' route route' rest rest' (get?_of_get?_erase hr').2
      (get?_of_get?_erase hr'').2
  sockets_lt := h.sockets_lt
  runs_lt r' awaits hr' := h.runs_lt r' awaits (get?_of_get?_erase hr').2

theorem WellFormed.bound_publishFrom (r : ℕ) (rest : List (ℕ × Route)) (id port : ℕ) :
    (publishFrom r rest m).Bound id port ↔ m.Bound id port := by
  induction rest with
  | nil => exact Iff.rfl
  | cons first rest ih =>
    unfold publishFrom
    split_ifs
    · exact ih
    · exact h.bound_startBind

omit h in
theorem get?_runs_publishFrom {r' : ℕ} (hr : r' ≠ r) (rest : List (ℕ × Route)) :
    (publishFrom r rest m).runs.get? r' = m.runs.get? r' := by
  induction rest with
  | nil => exact get?_erase_of_ne _ hr
  | cons first rest ih =>
    unfold publishFrom
    split_ifs
    · exact ih
    · exact get?_set_of_ne _ hr _

theorem WellFormed.publishFrom (hr : r < m.clock) (rest : List (ℕ × Route)) :
    WellFormed (publishFrom r rest m) := by
  induction rest with
  | nil => exact h.eraseRun
  | cons first rest ih =>
    unfold Manager.publishFrom
    split_ifs
    · exact ih
    · exact h.startBind hr _ _ _

end

theorem bound_closeSocket (id : ℕ) (waiting : List ℕ) (other port : ℕ) :
    (m.closeSocket id waiting).Bound other port ↔ m.Bound other port ∧ other ≠ id := by
  unfold Bound closeSocket
  by_cases hid : other = id
  · subst hid
    rw [get?_update_self]
    constructor
    · rintro ⟨socket, hsocket, hbound, -⟩
      obtain ⟨old, -, rfl⟩ := Option.map_eq_some_iff.1 hsocket
      cases hbound
    · intro h
      exact absurd rfl h.2
  · rw [get?_update_of_ne _ hid]
    exact (and_iff_left hid).symm

theorem WellFormed.withSockets (h : m.WellFormed) {sockets : OrdMap ℕ ListenSocket}
    (hkept : ∀ id socket, m.sockets.get? id = some socket → ∃ later,
      sockets.get? id = some later ∧ later.port = socket.port ∧
        (later.bound = true → socket.bound = true))
    (hnone : ∀ id, m.sockets.get? id = none → sockets.get? id = none) :
    WellFormed { m with sockets } := by
  have hback : ∀ id later, sockets.get? id = some later → ∃ socket,
      m.sockets.get? id = some socket ∧ later.port = socket.port ∧
        (later.bound = true → socket.bound = true) := by
    intro id later hlater
    cases hget : m.sockets.get? id with
    | none =>
      rw [hnone id hget] at hlater
      cases hlater
    | some socket =>
      obtain ⟨own, hown, hsame⟩ := hkept id socket hget
      rw [hlater] at hown
      cases hown
      exact ⟨socket, rfl, hsame⟩
  have hbound : ∀ id port, Bound { m with sockets } id port → m.Bound id port := by
    rintro id port ⟨later, hlater, hlive, hport⟩
    obtain ⟨socket, hsocket, hsame, hwas⟩ := hback id later hlater
    exact ⟨socket, hsocket, hwas hlive, hsame.symm.trans hport⟩
  constructor
  case entry =>
    intro port listener hlistener
    obtain ⟨socket, hsocket, hport⟩ := h.entry port listener hlistener
    obtain ⟨later, hlater, hsame, -⟩ := hkept _ socket hsocket
    exact ⟨later, hlater, hsame.trans hport⟩
  case distinct =>
    intro id other port hid hother
    exact h.distinct id other port (hbound id port hid) (hbound other port hother)
  case pending =>
    intro r id port route rest hr
    obtain ⟨⟨socket, hsocket, hport, hfree⟩, hunlisted⟩ := h.pending r id port route rest hr
    obtain ⟨later, hlater, hsame, hwas⟩ := hkept _ socket hsocket
    refine ⟨⟨later, hlater, hsame.trans hport, ?_⟩, hunlisted⟩
    rw [← Bool.not_eq_true]
    intro hlive
    rw [hwas hlive] at hfree
    cases hfree
  case separate => exact h.separate
  case sockets_lt =>
    intro id later hlater
    obtain ⟨socket, hsocket, -⟩ := hback id later hlater
    exact h.sockets_lt id socket hsocket
  case runs_lt => exact h.runs_lt

theorem WellFormed.closeSocket (h : m.WellFormed) (id : ℕ) (waiting : List ℕ) :
    (m.closeSocket id waiting).WellFormed := by
  apply h.withSockets
  · intro other socket hsocket
    rcases eq_or_ne other id with rfl | hne
    · refine ⟨{ socket with bound := false, waiters := socket.waiters ++ waiting }, ?_, rfl, nofun⟩
      rw [get?_update_self, hsocket]
      rfl
    · exact ⟨socket, (get?_update_of_ne _ hne _).trans hsocket, rfl, fun h => h⟩
  · intro other hnone
    rcases eq_or_ne other id with rfl | hne
    · rw [get?_update_self, hnone]
      rfl
    · exact (get?_update_of_ne _ hne _).trans hnone

theorem WellFormed.deleteListener (h : m.WellFormed) (port : ℕ) :
    WellFormed { m with listeners := m.listeners.delete port } := by
  have hsub : ∀ port' listener, (m.listeners.delete port).get? port' = some listener →
      m.listeners.get? port' = some listener := by
    intro port' listener hlistener
    rw [LiveMap.get?_delete] at hlistener
    split_ifs at hlistener
    exact hlistener
  constructor
  case entry =>
    intro port' listener hlistener
    exact h.entry port' listener (hsub port' listener hlistener)
  case pending =>
    intro r id port' route rest hr
    obtain ⟨hsocket, hunlisted⟩ := h.pending r id port' route rest hr
    exact ⟨hsocket, fun port' listener hlistener =>
      hunlisted port' listener (hsub port' listener hlistener)⟩
  case distinct => exact h.distinct
  case separate => exact h.separate
  case sockets_lt => exact h.sockets_lt
  case runs_lt => exact h.runs_lt

theorem WellFormed.setRun (h : m.WellFormed) (hr : r < m.clock) {awaits : Awaits}
    (hawaits : ∀ id port route rest, awaits ≠ .bind id port route rest) :
    WellFormed { m with runs := m.runs.set r awaits } := by
  have hold : ∀ r' id port route rest,
      (m.runs.set r awaits).get? r' = some (.bind id port route rest) →
      m.runs.get? r' = some (.bind id port route rest) := by
    intro r' id port route rest hr'
    rw [get?_set] at hr'
    split_ifs at hr'
    · cases hr'
      exact absurd rfl (hawaits _ _ _ _)
    · exact hr'
  constructor
  case entry => exact h.entry
  case distinct => exact h.distinct
  case pending =>
    intro r' id port route rest hr'
    exact h.pending r' id port route rest (hold r' id port route rest hr')
  case separate =>
    intro r' r'' id port port' route route' rest rest' hr' hr''
    exact h.separate r' r'' id port port' route route' rest rest' (hold _ _ _ _ _ hr')
      (hold _ _ _ _ _ hr'')
  case sockets_lt => exact h.sockets_lt
  case runs_lt =>
    intro r' own hr'
    rw [get?_set] at hr'
    split_ifs at hr' with hsame
    · exact hsame ▸ hr
    · exact h.runs_lt r' own hr'

theorem WellFormed.closeAll (h : m.WellFormed) (desired : OrdMap ℕ Route)
    (entries : List (ℕ × Listener)) : (m.closeAll desired entries).WellFormed := by
  induction entries generalizing m with
  | nil => exact h
  | cons e rest ih =>
    unfold Manager.closeAll
    split_ifs
    · exact ih ((h.closeSocket _ _).deleteListener _)
    · exact ih h

theorem bound_closeAll (desired : OrdMap ℕ Route) (entries : List (ℕ × Listener)) (id port : ℕ) :
    (m.closeAll desired entries).Bound id port ↔ m.Bound id port ∧
      ∀ e ∈ entries, stale .udp desired e.1 e.2 = true → e.2.socket ≠ id := by
  induction entries generalizing m with
  | nil => simp [closeAll]
  | cons e rest ih =>
    rw [List.forall_mem_cons]
    unfold closeAll
    split_ifs with hstale
    · have hclosed := bound_closeSocket (m := m) e.2.socket [] id port
      rw [ih, imp_iff_right hstale, ← and_assoc]
      exact and_congr_left fun _ => hclosed.trans (and_congr_right fun _ => ne_comm)
    · rw [ih, and_iff_right fun h => absurd h hstale]

variable {listener : Listener}

theorem get?_listeners_closeAll (desired : OrdMap ℕ Route) (entries : List (ℕ × Listener))
    (h : m.listeners.get? port = some listener)
    (hnot : ∀ e ∈ entries, stale .udp desired e.1 e.2 = true → e.1 ≠ port) :
    (m.closeAll desired entries).listeners.get? port = some listener := by
  induction entries generalizing m with
  | nil => exact h
  | cons e rest ih =>
    obtain ⟨hfirst, hrest⟩ := List.forall_mem_cons.1 hnot
    unfold closeAll
    split_ifs with hstale
    · refine ih ?_ hrest
      rw [LiveMap.get?_delete, if_neg (hfirst hstale).symm]
      exact h
    · exact ih h hrest

@[simp]
theorem clock_closeAll (desired : OrdMap ℕ Route) (entries : List (ℕ × Listener)) :
    (m.closeAll desired entries).clock = m.clock := by
  induction entries generalizing m with
  | nil => rfl
  | cons e rest ih =>
    unfold closeAll
    split_ifs
    · exact ih
    · exact ih

variable {position : ℕ} {desired : OrdMap ℕ Route}

theorem WellFormed.syncFrom (h : m.WellFormed) (hr : r < m.clock) (desired : OrdMap ℕ Route)
    (position : ℕ) : (m.syncFrom transport r desired position).WellFormed := by
  unfold Manager.syncFrom
  cases transport with
  | tcp =>
    dsimp only
    split
    · exact (h.closeSocket _ _).setRun hr fun _ _ _ _ h => nomatch h
    · exact h.publishFrom hr _
  | udp =>
    refine (h.closeAll desired _).publishFrom ?_ _
    rw [clock_closeAll]
    exact hr

theorem WellFormed.bound_syncFrom (h : m.WellFormed) {id : ℕ} :
    (m.syncFrom transport r desired position).Bound id port ↔ m.Bound id port ∧
      ∀ port' listener, Closes transport m.listeners desired position port' listener →
        listener.socket ≠ id := by
  unfold Manager.syncFrom
  cases transport with
  | tcp =>
    unfold Closes
    dsimp only
    split
    · rename_i later port' listener hnext
      rw [hnext]
      refine (bound_closeSocket listener.socket [r] id port).trans (and_congr_right fun _ => ?_)
      constructor
      · rintro hne _ _ ⟨_, ⟨⟩⟩
        exact hne.symm
      · intro hall
        exact (hall port' listener ⟨later, rfl⟩).symm
    · rename_i hnone
      rw [h.bound_publishFrom]
      refine (and_iff_left ?_).symm
      rintro port' listener ⟨later, hlater⟩
      rw [hnone] at hlater
      cases hlater
  | udp =>
    rw [(h.closeAll desired _).bound_publishFrom, bound_closeAll]
    refine and_congr_right fun _ => ?_
    constructor
    · rintro hall port' listener ⟨hlistener, hstale⟩
      exact hall (port', listener) (LiveMap.mem_entries.2 (LiveMap.get?_eq_some_iff.1 hlistener))
        hstale
    · intro hall e he hstale
      exact hall e.1 e.2 ⟨LiveMap.get?_eq_some_iff.2 (LiveMap.mem_entries.1 he), hstale⟩

theorem Listed.syncFrom (h : m.Listed) (hwell : m.WellFormed) :
    (m.syncFrom transport r desired position).Listed := by
  intro id port hbound
  obtain ⟨hwas, hnot⟩ := hwell.bound_syncFrom.1 hbound
  obtain ⟨listener, hlistener, rfl⟩ := h id port hwas
  refine ⟨listener, ?_, rfl⟩
  unfold Manager.syncFrom
  cases transport with
  | tcp =>
    dsimp only
    split
    · exact hlistener
    · rw [listeners_publishFrom]
      exact hlistener
  | udp =>
    rw [listeners_publishFrom]
    refine get?_listeners_closeAll desired _ hlistener fun e he hstale hport => ?_
    have hget := LiveMap.get?_eq_some_iff.2 (LiveMap.mem_entries.1 he)
    subst hport
    rw [hlistener] at hget
    cases hget
    exact hnot e.1 e.2 ⟨hlistener, hstale⟩ rfl

theorem sub_closeAll {entries : List (ℕ × Listener)}
    (h : (m.closeAll desired entries).listeners.get? port = some listener) :
    m.listeners.get? port = some listener := by
  induction entries generalizing m with
  | nil => exact h
  | cons e rest ih =>
    unfold closeAll at h
    split_ifs at h
    · have hdeleted := ih h
      rw [LiveMap.get?_delete] at hdeleted
      split_ifs at hdeleted
      exact hdeleted
    · exact ih h

theorem sub_syncFrom
    (h : (m.syncFrom transport r desired position).listeners.get? port = some listener) :
    m.listeners.get? port = some listener := by
  unfold syncFrom at h
  cases transport with
  | tcp =>
    dsimp only at h
    split at h
    · exact h
    · rw [listeners_publishFrom] at h
      exact h
  | udp =>
    rw [listeners_publishFrom] at h
    exact sub_closeAll h

theorem free_iff : m.free port = true ↔ ∀ id, ¬ m.Bound id port := by
  unfold free
  rw [List.all_eq_true]
  constructor
  · rintro h id ⟨socket, hsocket, hbound, hport⟩
    have hnot := h (id, socket) (get?_eq_some_iff.1 hsocket)
    simp [hbound, hport] at hnot
  · intro h e he
    rw [Bool.not_eq_true', ← Bool.not_eq_true, Bool.and_eq_true, decide_eq_true_eq]
    intro ⟨hbound, hport⟩
    exact h e.1 ⟨e.2, get?_eq_some_iff.2 he, hbound, hport⟩

section

variable {id : ℕ} {route : Route} {rest : List (ℕ × Route)}

theorem WellFormed.bound_record (h : m.WellFormed)
    (hr : m.runs.get? r = some (.bind id port route rest)) (other port' : ℕ) :
    (m.record r id port route).Bound other port' ↔
      m.Bound other port' ∨ other = id ∧ port' = port := by
  obtain ⟨⟨socket, hsocket, hport, hfree⟩, -⟩ := h.pending r id port route rest hr
  unfold Bound record
  rcases eq_or_ne other id with rfl | hne
  · rw [get?_update_self, hsocket]
    simpa [hfree, hport] using eq_comm
  · rw [get?_update_of_ne _ hne]
    simp [hne]

theorem WellFormed.record (h : m.WellFormed)
    (hr : m.runs.get? r = some (.bind id port route rest)) (hfree : m.free port = true) :
    (m.record r id port route).WellFormed := by
  obtain ⟨⟨socket, hsocket, hport, -⟩, hunlisted⟩ := h.pending r id port route rest hr
  have hnone := free_iff.1 hfree
  have hself : (m.record r id port route).sockets.get? id = some { socket with bound := true } := by
    rw [Manager.record, get?_update_self, hsocket]
    rfl
  have hother : ∀ other, other ≠ id →
      (m.record r id port route).sockets.get? other = m.sockets.get? other :=
    fun other hne => get?_update_of_ne _ hne _
  have hrun : ∀ r' awaits, (m.record r id port route).runs.get? r' = some awaits →
      r' ≠ r ∧ m.runs.get? r' = some awaits := fun r' awaits hr' => get?_of_get?_erase hr'
  constructor
  case entry =>
    intro port' listener hlistener
    have hset := (LiveMap.get?_set _ _ _ _).symm.trans hlistener
    split_ifs at hset with hsame
    · cases hset
      exact ⟨_, hself, hport.trans hsame.symm⟩
    · obtain ⟨own, hown, hown'⟩ := h.entry port' listener hset
      refine ⟨own, ?_, hown'⟩
      rw [hother _ (hunlisted port' listener hset)]
      exact hown
  case distinct =>
    intro first second port' hfirst hsecond
    rw [h.bound_record hr] at hfirst hsecond
    rcases hfirst with hfirst | ⟨rfl, rfl⟩
    · rcases hsecond with hsecond | ⟨rfl, rfl⟩
      · exact h.distinct first second port' hfirst hsecond
      · exact absurd hfirst (hnone first)
    · rcases hsecond with hsecond | ⟨rfl, -⟩
      · exact absurd hsecond (hnone second)
      · rfl
  case pending =>
    intro r' id' port' route' rest' hr'
    obtain ⟨hne, hold⟩ := hrun r' _ hr'
    obtain ⟨⟨own, hown, hsame⟩, hclear⟩ := h.pending r' id' port' route' rest' hold
    have hid : id' ≠ id := by
      rintro rfl
      exact hne (h.separate r' r id' port' port route' route rest' rest hold hr)
    refine ⟨⟨own, (hother id' hid).trans hown, hsame⟩, fun port'' listener hlistener => ?_⟩
    have hset := (LiveMap.get?_set _ _ _ _).symm.trans hlistener
    split_ifs at hset
    · cases hset
      exact hid.symm
    · exact hclear port'' listener hset
  case separate =>
    intro r' r'' id' port' port'' route' route'' rest' rest'' hr' hr''
    exact h.separate r' r'' id' port' port'' route' route'' rest' rest'' (hrun r' _ hr').2
      (hrun r'' _ hr'').2
  case sockets_lt =>
    intro other own hown
    rcases eq_or_ne other id with rfl | hne
    · exact h.sockets_lt other socket hsocket
    · exact h.sockets_lt other own ((hother other hne).symm.trans hown)
  case runs_lt =>
    intro r' awaits hr'
    exact h.runs_lt r' awaits (hrun r' awaits hr').2

theorem Listed.record (h : m.Listed) (hwell : m.WellFormed)
    (hr : m.runs.get? r = some (.bind id port route rest)) (hfree : m.free port = true) :
    (m.record r id port route).Listed := by
  intro other port' hbound
  rcases (hwell.bound_record hr other port').1 hbound with hold | ⟨rfl, rfl⟩
  · obtain ⟨listener, hlistener, hsocket⟩ := h other port' hold
    refine ⟨listener, ?_, hsocket⟩
    have hne : port' ≠ port := by
      rintro rfl
      exact free_iff.1 hfree other hold
    exact (LiveMap.get?_set _ _ _ _).trans (by rw [if_neg hne]; exact hlistener)
  · exact ⟨⟨other, route⟩, (LiveMap.get?_set _ _ _ _).trans (if_pos rfl), rfl⟩

end

/-! ## One step -/

theorem WellFormed.react (h : m.WellFormed) (event : Event) :
    (m.react transport event).WellFormed := by
  cases event with
  | changed table => exact ⟨h.entry, h.distinct, h.pending, h.separate, h.sockets_lt, h.runs_lt⟩
  | tick =>
    have hlater : WellFormed { m with clock := m.clock + 1 } :=
      ⟨h.entry, h.distinct, h.pending, h.separate,
        fun id socket hsocket => (h.sockets_lt id socket hsocket).trans (Nat.lt_succ_self _),
        fun r awaits hr => (h.runs_lt r awaits hr).trans (Nat.lt_succ_self _)⟩
    exact hlater.setRun (Nat.lt_succ_self _) fun _ _ _ _ h => nomatch h
  | read r =>
    unfold Manager.react
    dsimp only
    split
    · rename_i hr
      have hread : WellFormed { m with
          runs := m.runs.set r (.answer (m.table.desired transport.protocol)) } :=
        h.setRun (h.runs_lt r _ hr) fun _ _ _ _ h => nomatch h
      exact ⟨hread.entry, hread.distinct, hread.pending, hread.separate, hread.sockets_lt,
        hread.runs_lt⟩
    · exact h
  | unanswered r =>
    unfold Manager.react
    dsimp only
    split
    · exact h.eraseRun
    · exact h.eraseRun
    · exact h
  | answered r =>
    unfold Manager.react
    dsimp only
    split
    · rename_i desired hr
      exact h.syncFrom (h.runs_lt r _ hr) desired 0
    · exact h
  | closed id =>
    unfold Manager.react
    dsimp only
    split
    · rename_i socket hsocket
      split_ifs
      · exact h
      · have hset : WellFormed { m with
            sockets := m.sockets.set id { socket with waiters := [] } } := by
          apply h.withSockets
          · intro other own hown
            rcases eq_or_ne other id with rfl | hne
            · rw [hsocket] at hown
              cases hown
              exact ⟨_, get?_set_self _ _ _, rfl, fun h => h⟩
            · exact ⟨own, (get?_set_of_ne _ hne _).trans hown, rfl, fun h => h⟩
          · intro other hnone
            have hne : other ≠ id := by
              rintro rfl
              rw [hsocket] at hnone
              cases hnone
            exact (get?_set_of_ne _ hne _).trans hnone
        exact ⟨hset.entry, hset.distinct, hset.pending, hset.separate, hset.sockets_lt,
          hset.runs_lt⟩
    · exact h
  | resumed => exact h
  | bound r =>
    unfold Manager.react
    dsimp only
    split
    · rename_i id port route rest hr
      split_ifs with hfree
      · exact (h.record hr hfree).publishFrom (h.runs_lt r _ hr) rest
      · exact h
    · exact h
  | failed r =>
    unfold Manager.react
    dsimp only
    split
    · exact h.eraseRun
    · exact h

theorem WellFormed.withReady (h : m.WellFormed) (ready : List ℕ) : WellFormed { m with ready } :=
  ⟨h.entry, h.distinct, h.pending, h.separate, h.sockets_lt, h.runs_lt⟩

theorem WellFormed.resume (h : m.WellFormed) (r : ℕ) (others : List ℕ) :
    (m.resume transport r others).WellFormed := by
  unfold Manager.resume
  split
  · rename_i desired position port hr
    exact WellFormed.syncFrom ((h.deleteListener port).withReady others) (h.runs_lt r _ hr) desired
      position
  · exact h.withReady others

theorem step_of_not_ready (hready : m.ready = []) (event : Event) :
    m.step transport event = m.react transport event := by
  unfold step
  rw [hready]

theorem step_resumed {others : List ℕ} (hready : m.ready = r :: others) :
    m.step transport .resumed = m.resume transport r others := by
  unfold step
  rw [hready]

theorem step_of_ready {others : List ℕ} (hready : m.ready = r :: others) {event : Event}
    (hevent : event ≠ .resumed) : m.step transport event = m := by
  unfold step
  rw [hready]
  cases event <;> first | rfl | exact absurd rfl hevent

theorem WellFormed.step (h : m.WellFormed) (event : Event) :
    (m.step transport event).WellFormed := by
  cases hready : m.ready with
  | nil =>
    rw [step_of_not_ready hready]
    exact h.react event
  | cons r others =>
    by_cases hevent : event = .resumed
    · subst hevent
      rw [step_resumed hready]
      exact h.resume r others
    · rw [step_of_ready hready hevent]
      exact h

end Tunnara.Edge.Manager
