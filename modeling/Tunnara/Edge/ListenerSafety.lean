/-
# When overlapping syncs are safe

A step loses an entry, closes a wanted listener or gives up ports in exactly three cases:
a run deletes the entry of a server that was published while it waited, a run closes by
routes that are no longer those of the store, and a bind fails while ports behind it wait.
In a run without these steps, what a `sync` finds and does not want is closed by the end
of its first loop.
-/

import Tunnara.Edge.ListenerRecords

namespace Tunnara.Edge.Manager

open Control Transition OrdMap

variable {transport : Transport} {m : Manager} {r position : ℕ} {desired : OrdMap ℕ Route}

/-- The entries and the bound sockets are the same. -/
structure Calm (m next : Manager) : Prop where
  listeners : next.listeners = m.listeners
  bound : ∀ id port, next.Bound id port ↔ m.Bound id port

theorem Calm.refl (m : Manager) : Calm m m := ⟨rfl, fun _ _ => Iff.rfl⟩

/-- What a step keeps and does as far as the sockets go. -/
def Sound (transport : Transport) (m : Manager) (event : Event) : Prop :=
  (m.step transport event).Listed ∧ m.ClosesUnwanted transport event

variable {event : Event} {next : Manager}

theorem Calm.sound (h : Calm m (m.step transport event)) (hlisted : m.Listed) :
    m.Sound transport event := by
  constructor
  · intro id port hbound
    rw [h.listeners]
    exact hlisted id port ((h.bound id port).1 hbound)
  · intro id port listener hbound hnot
    exact absurd ((h.bound id port).2 hbound) hnot

theorem Closes.get? {transport : Transport} {listeners : LiveMap ℕ Listener} {port : ℕ}
    {listener : Listener} (h : Closes transport listeners desired position port listener) :
    listeners.get? port = some listener := by
  cases transport with
  | tcp =>
    obtain ⟨later, hnext⟩ := h
    obtain ⟨i, -, -, hholds, -⟩ := LiveMap.next_eq_some hnext
    exact hholds.get?
  | udp => exact h.1

theorem WellFormed.closesUnwanted_iff (h : m.WellFormed) {listeners : LiveMap ℕ Listener}
    (hsub : ∀ port listener, listeners.get? port = some listener →
      m.listeners.get? port = some listener)
    (hbound : ∀ id port, (m.step transport event).Bound id port ↔ m.Bound id port ∧
      ∀ port' listener, Closes transport listeners desired position port' listener →
        listener.socket ≠ id) :
    m.ClosesUnwanted transport event ↔ m.ClosesNext transport listeners desired position := by
  constructor
  · intro hunwanted port listener hcloses hwas
    refine hunwanted listener.socket port listener hwas (fun hstill => ?_) (hsub _ _ hcloses.get?) rfl
    exact ((hbound _ _).1 hstill).2 port listener hcloses rfl
  · intro hnext id port listener hwas hnot hlistener hid
    have hclosed : ∃ port' other,
        Closes transport listeners desired position port' other ∧ other.socket = id := by
      by_contra hnone
      refine hnot ((hbound id port).2 ⟨hwas, fun port' other hcloses hsame => ?_⟩)
      exact hnone ⟨port', other, hcloses, hsame⟩
    obtain ⟨port', other, hcloses, rfl⟩ := hclosed
    have hother := hsub _ _ hcloses.get?
    obtain ⟨socket, hsocket, hport⟩ := h.entry port' other hother
    have hsame : port' = port := hport.symm.trans (hwas.port_eq hsocket)
    subst hsame
    rw [hother] at hlistener
    cases hlistener
    exact hnext _ _ hcloses hwas

theorem Listed.publishFrom (h : m.Listed) (hwell : m.WellFormed) (r : ℕ)
    (rest : List (ℕ × Route)) : (publishFrom r rest m).Listed := by
  intro id port hbound
  rw [listeners_publishFrom]
  exact h id port ((hwell.bound_publishFrom r rest id port).1 hbound)

theorem Listed.delete (h : m.Listed) {port : ℕ}
    (hfree : ∀ listener, m.listeners.get? port = some listener → ¬ m.Bound listener.socket port)
    (ready : List ℕ) : Listed { m with ready, listeners := m.listeners.delete port } := by
  intro id port' hbound
  obtain ⟨listener, hlistener, rfl⟩ := h id port' hbound
  refine ⟨listener, ?_, rfl⟩
  rw [LiveMap.get?_delete, if_neg]
  · exact hlistener
  · rintro rfl
    exact hfree listener hlistener hbound

theorem sound_answered_iff (h : m.WellFormed) (hlisted : m.Listed) (hready : m.ready = []) :
    m.Sound transport (.answered r) ↔ ∀ desired, m.runs.get? r = some (.answer desired) →
      m.ClosesNext transport m.listeners desired 0 := by
  have hstep : m.step transport (.answered r) = m.react transport (.answered r) :=
    step_of_not_ready hready _
  unfold react at hstep
  dsimp only at hstep
  split at hstep
  · rename_i desired hr
    have hclosed : m.ClosesUnwanted transport (.answered r) ↔
        m.ClosesNext transport m.listeners desired 0 := by
      apply h.closesUnwanted_iff fun _ _ hlistener => hlistener
      intro id port
      rw [hstep]
      exact h.bound_syncFrom
    have hkept : (m.step transport (.answered r)).Listed := by
      rw [hstep]
      exact hlisted.syncFrom h
    unfold Sound
    rw [and_iff_right hkept, hclosed, hr]
    constructor
    · intro hnext own hown
      cases hown
      exact hnext
    · intro hnext
      exact hnext desired rfl
  · rename_i hother
    have hcalm : Calm m (m.step transport (.answered r)) := by
      rw [hstep]
      exact Calm.refl m
    apply iff_of_true (hcalm.sound hlisted)
    intro desired hr
    exact absurd hr (hother desired)

theorem sound_resumed_iff (h : m.WellFormed) (hlisted : m.Listed) {others : List ℕ}
    (hready : m.ready = r :: others) :
    m.Sound transport .resumed ↔ ∀ desired position port,
      m.runs.get? r = some (.close desired position port) →
      (∀ listener, m.listeners.get? port = some listener → ¬ m.Bound listener.socket port) ∧
        m.ClosesNext transport (m.listeners.delete port) desired position := by
  have hstep : m.step transport .resumed = m.resume transport r others := step_resumed hready
  unfold resume at hstep
  split at hstep
  · rename_i desired position port hr
    have hmiddle := (h.deleteListener port).withReady others
    have hsub : ∀ port' listener, (m.listeners.delete port).get? port' = some listener →
        port' ≠ port ∧ m.listeners.get? port' = some listener := by
      intro port' listener hlistener
      rw [LiveMap.get?_delete] at hlistener
      split_ifs at hlistener with hne
      exact ⟨hne, hlistener⟩
    have hbound : ∀ id port', (m.step transport .resumed).Bound id port' ↔ m.Bound id port' ∧
        ∀ port'' listener, Closes transport (m.listeners.delete port) desired position port''
          listener → listener.socket ≠ id := by
      intro id port'
      rw [hstep]
      exact hmiddle.bound_syncFrom
    have hclosed : m.ClosesUnwanted transport .resumed ↔
        m.ClosesNext transport (m.listeners.delete port) desired position :=
      h.closesUnwanted_iff (fun port' listener hlistener => (hsub port' listener hlistener).2) hbound
    have hkept : (m.step transport .resumed).Listed ↔
        ∀ listener, m.listeners.get? port = some listener → ¬ m.Bound listener.socket port := by
      constructor
      · -- the socket of a deleted entry is not among those that are closed next
        intro hafter listener hlistener hwas
        have hstill : (m.step transport .resumed).Bound listener.socket port := by
          refine (hbound _ _).2 ⟨hwas, fun port' other hcloses hsame => ?_⟩
          obtain ⟨hne, hother⟩ := hsub port' other hcloses.get?
          obtain ⟨socket, hsocket, hport⟩ := h.entry port' other hother
          rw [hsame] at hsocket
          exact hne (hport.symm.trans (hwas.port_eq hsocket))
        obtain ⟨other, hother, -⟩ := hafter _ _ hstill
        rw [hstep] at hother
        exact (hsub port other (sub_syncFrom hother)).1 rfl
      · intro hfree
        rw [hstep]
        exact (hlisted.delete hfree others).syncFrom hmiddle
    unfold Sound
    rw [hkept, hclosed, hr]
    constructor
    · intro hboth own position' port' hown
      cases hown
      exact hboth
    · intro hboth
      exact hboth desired position port rfl
  · rename_i hother
    have hcalm : Calm m (m.step transport .resumed) := by
      rw [hstep]
      exact ⟨rfl, fun _ _ => Iff.rfl⟩
    apply iff_of_true (hcalm.sound hlisted)
    intro desired position port hr
    exact absurd hr (hother desired position port)

theorem sound_react (h : m.WellFormed) (hlisted : m.Listed) (hready : m.ready = [])
    (hevent : ∀ r, event ≠ .answered r) : m.Sound transport event := by
  have hstep : m.step transport event = m.react transport event := step_of_not_ready hready _
  cases event with
  | answered r => exact absurd rfl (hevent r)
  | bound r =>
    unfold react at hstep
    dsimp only at hstep
    split at hstep
    · rename_i id port route rest hr
      split_ifs at hstep with hfree
      · have hrecorded := h.record hr hfree
        constructor
        · rw [hstep]
          exact (hlisted.record h hr hfree).publishFrom hrecorded r rest
        · intro other port' listener hwas hnot
          rw [hstep, hrecorded.bound_publishFrom, h.bound_record hr] at hnot
          exact absurd (.inl hwas) hnot
      · exact Calm.sound (by rw [hstep]; exact Calm.refl m) hlisted
    · exact Calm.sound (by rw [hstep]; exact Calm.refl m) hlisted
  | closed id =>
    apply Calm.sound _ hlisted
    rw [hstep]
    unfold react
    dsimp only
    split
    · rename_i socket hsocket
      split_ifs
      · exact Calm.refl m
      · refine ⟨rfl, fun other port => ?_⟩
        unfold Bound
        rcases eq_or_ne other id with rfl | hne
        · rw [get?_set_self, hsocket]
          simp
        · rw [get?_set_of_ne _ hne]
    · exact Calm.refl m
  | changed table | tick | resumed => exact Calm.sound (hstep ▸ ⟨rfl, fun _ _ => Iff.rfl⟩) hlisted
  | read r | unanswered r | failed r =>
    apply Calm.sound _ hlisted
    rw [hstep]
    unfold react
    dsimp only
    split <;> exact ⟨rfl, fun _ _ => Iff.rfl⟩

theorem failsAlone_iff (hready : m.ready = []) :
    m.FailsAlone transport (.failed r) ↔ ∀ id port route rest,
      m.runs.get? r = some (.bind id port route rest) → ∀ other ∈ rest.map Prod.fst,
        (∃ id, m.Bound id other) ∨ ∃ r', r' ≠ r ∧ m.OnTheWay r' other := by
  unfold FailsAlone
  dsimp only
  rw [imp_iff_right hready]
  refine forall_congr' fun id => forall_congr' fun port => forall_congr' fun route =>
    forall_congr' fun rest => forall_congr' fun hr => forall₂_congr fun other _ => ?_
  have hstep : m.step transport (.failed r) = { m with runs := m.runs.erase r } := by
    rw [step_of_not_ready hready]
    unfold react
    dsimp only
    rw [hr]
  rw [hstep]
  apply or_congr Iff.rfl
  refine exists_congr fun r' => ?_
  unfold OnTheWay
  rcases eq_or_ne r' r with rfl | hne
  · rw [get?_erase_self]
    simp
  · rw [get?_erase_of_ne _ hne, and_iff_right hne]

theorem sound_iff (h : m.WellFormed) (hlisted : m.Listed) {event : Event} :
    m.Sound transport event ∧ m.FailsAlone transport event ↔ m.Undisturbed transport event := by
  unfold Undisturbed
  cases hready : m.ready with
  | nil =>
    cases event with
    | answered r => exact (and_iff_left trivial).trans (sound_answered_iff h hlisted hready)
    | failed r =>
      have hsound : m.Sound transport (.failed r) := sound_react h hlisted hready nofun
      exact (and_iff_right hsound).trans (failsAlone_iff hready)
    | changed table | tick | read r | unanswered r | closed id | resumed
    | bound r => exact iff_of_true ⟨sound_react h hlisted hready nofun, trivial⟩ trivial
  | cons r others =>
    by_cases hevent : event = .resumed
    · subst hevent
      exact (and_iff_left trivial).trans (sound_resumed_iff h hlisted hready)
    · have hsame : m.step transport event = m := step_of_ready hready hevent
      have hsound : m.Sound transport event := Calm.sound (hsame.symm ▸ Calm.refl m) hlisted
      have hfails : m.FailsAlone transport event := by
        cases event with
        | failed r' =>
          intro hnone
          rw [hready] at hnone
          cases hnone
        | _ => trivial
      refine iff_of_true ⟨hsound, hfails⟩ ?_
      cases event <;> trivial

/-! ## What a run does not want is closed -/

/-- The socket awaits its bind or has not been created. -/
def Fresh (m : Manager) (id : ℕ) : Prop :=
  (∃ r port route rest, m.runs.get? r = some (.bind id port route rest)) ∨ m.sockets.get? id = none

/-- Only fresh sockets are bound later. -/
structure Grows (m next : Manager) : Prop where
  fresh : ∀ id, next.Fresh id → m.Fresh id
  bound : ∀ id port, next.Bound id port → m.Bound id port ∨ m.Fresh id
  clock : m.clock ≤ next.clock

theorem Grows.refl (m : Manager) : Grows m m :=
  ⟨fun _ h => h, fun _ _ h => .inl h, Nat.le_refl _⟩

theorem Grows.trans {last : Manager} (h : Grows m next) (h' : Grows next last) :
    Grows m last where
  fresh id hid := h.fresh id (h'.fresh id hid)
  bound id port hbound := by
    rcases h'.bound id port hbound with hnext | hfresh
    · exact h.bound id port hnext
    · exact .inr (h.fresh id hfresh)
  clock := h.clock.trans h'.clock

theorem Grows.of_le
    (hruns : ∀ r id port route rest, next.runs.get? r = some (.bind id port route rest) →
      m.runs.get? r = some (.bind id port route rest))
    (hsockets : ∀ id, next.sockets.get? id = none → m.sockets.get? id = none)
    (hbound : ∀ id port, next.Bound id port → m.Bound id port) (hclock : m.clock ≤ next.clock) :
    Grows m next where
  fresh id hid := by
    rcases hid with ⟨r, port, route, rest, hr⟩ | hnone
    · exact .inl ⟨r, port, route, rest, hruns r id port route rest hr⟩
    · exact .inr (hsockets id hnone)
  bound id port h := .inl (hbound id port h)
  clock := hclock

theorem grows_eraseRun : Grows m { m with runs := m.runs.erase r } :=
  Grows.of_le (fun _ _ _ _ _ h => (get?_of_get?_erase h).2) (fun _ h => h) (fun _ _ h => h)
    (Nat.le_refl _)

theorem grows_setRun {awaits : Awaits}
    (hawaits : ∀ id port route rest, awaits ≠ .bind id port route rest) :
    Grows m { m with runs := m.runs.set r awaits } := by
  refine Grows.of_le ?_ (fun _ h => h) (fun _ _ h => h) (Nat.le_refl _)
  intro r' id port route rest hr'
  rw [get?_set] at hr'
  split_ifs at hr'
  · cases hr'
    exact absurd rfl (hawaits _ _ _ _)
  · exact hr'

variable {rest : List (ℕ × Route)}

theorem WellFormed.grows_startBind (h : m.WellFormed) {port : ℕ} {route : Route} :
    Grows m (m.startBind r port route rest) where
  fresh id hid := by
    rcases eq_or_ne id m.clock with rfl | hne
    · exact .inr h.get?_clock
    rcases hid with ⟨r', port', route', rest', hr'⟩ | hnone
    · rw [Manager.startBind, get?_set] at hr'
      split_ifs at hr'
      · cases hr'
        exact absurd rfl hne
      · exact .inl ⟨r', port', route', rest', hr'⟩
    · rw [Manager.startBind, get?_set_of_ne _ hne] at hnone
      exact .inr hnone
  bound id port' hbound := .inl (h.bound_startBind.1 hbound)
  clock := Nat.le_succ _

theorem WellFormed.grows_publishFrom (h : m.WellFormed) :
    Grows m (Manager.publishFrom r rest m) := by
  induction rest with
  | nil => exact grows_eraseRun
  | cons first rest ih =>
    unfold Manager.publishFrom
    split_ifs
    · exact ih
    · exact h.grows_startBind

theorem grows_closeSocket {id : ℕ} {waiting : List ℕ} : Grows m (m.closeSocket id waiting) := by
  refine Grows.of_le (fun _ _ _ _ _ h => h) ?_ ?_ (Nat.le_refl _)
  · intro other hnone
    rcases eq_or_ne other id with rfl | hne
    · exact Option.map_eq_none_iff.1 ((get?_update_self _ _ _).symm.trans hnone)
    · exact (get?_update_of_ne _ hne _).symm.trans hnone
  · intro other port hbound
    exact ((bound_closeSocket id waiting other port).1 hbound).1

theorem grows_listeners {listeners : LiveMap ℕ Listener} {ready : List ℕ} :
    Grows m { m with listeners, ready } :=
  Grows.of_le (fun _ _ _ _ _ h => h) (fun _ h => h) (fun _ _ h => h) (Nat.le_refl _)

theorem grows_closeAll {desired : OrdMap ℕ Route} {entries : List (ℕ × Listener)} :
    Grows m (m.closeAll desired entries) := by
  induction entries generalizing m with
  | nil => exact Grows.refl m
  | cons e rest ih =>
    unfold closeAll
    split_ifs
    · exact (grows_closeSocket.trans grows_listeners).trans ih
    · exact ih

theorem WellFormed.grows_syncFrom (h : m.WellFormed) {desired : OrdMap ℕ Route} {position : ℕ} :
    Grows m (m.syncFrom transport r desired position) := by
  unfold Manager.syncFrom
  cases transport with
  | tcp =>
    dsimp only
    split
    · refine grows_closeSocket.trans (grows_setRun ?_)
      exact fun _ _ _ _ h => nomatch h
    · exact h.grows_publishFrom
  | udp => exact grows_closeAll.trans ((h.closeAll _ _).grows_publishFrom)

theorem WellFormed.grows_record (h : m.WellFormed) {id port : ℕ} {route : Route}
    (hr : m.runs.get? r = some (.bind id port route rest)) :
    Grows m (m.record r id port route) where
  fresh other hother := by
    rcases hother with ⟨r', port', route', rest', hr'⟩ | hnone
    · exact .inl ⟨r', port', route', rest', (get?_of_get?_erase hr').2⟩
    · rcases eq_or_ne other id with rfl | hne
      · exact .inl ⟨r, port, route, rest, hr⟩
      · exact .inr ((get?_update_of_ne _ hne _).symm.trans hnone)
  bound other port' hbound := by
    rcases (h.bound_record hr other port').1 hbound with hold | ⟨rfl, -⟩
    · exact .inl hold
    · exact .inr (.inl ⟨r, port, route, rest, hr⟩)
  clock := Nat.le_refl _

theorem WellFormed.grows_react (h : m.WellFormed) {event : Event} :
    Grows m (m.react transport event) := by
  unfold Manager.react
  cases event with
  | changed table =>
    exact Grows.of_le (fun _ _ _ _ _ h => h) (fun _ h => h) (fun _ _ h => h) (Nat.le_refl _)
  | tick =>
    have hset : Grows m { m with runs := m.runs.set m.clock .routes } :=
      grows_setRun fun _ _ _ _ h => nomatch h
    have hlater : Grows { m with runs := m.runs.set m.clock .routes } { m with
        runs := m.runs.set m.clock .routes, clock := m.clock + 1 } :=
      Grows.of_le (fun _ _ _ _ _ h => h) (fun _ h => h) (fun _ _ h => h) (Nat.le_succ _)
    exact hset.trans hlater
  | read r =>
    dsimp only
    split
    · have hset : Grows m { m with
          runs := m.runs.set r (.answer (m.table.desired transport.protocol)) } :=
        grows_setRun fun _ _ _ _ h => nomatch h
      have hread : Grows { m with
          runs := m.runs.set r (.answer (m.table.desired transport.protocol)) } { m with
          table := m.table.afterRead transport.protocol
          runs := m.runs.set r (.answer (m.table.desired transport.protocol)) } :=
        Grows.of_le (fun _ _ _ _ _ h => h) (fun _ h => h) (fun _ _ h => h) (Nat.le_refl _)
      exact hset.trans hread
    · exact Grows.refl m
  | unanswered r =>
    dsimp only
    split
    · exact grows_eraseRun
    · exact grows_eraseRun
    · exact Grows.refl m
  | answered r =>
    dsimp only
    split
    · exact h.grows_syncFrom
    · exact Grows.refl m
  | closed id =>
    dsimp only
    split
    · rename_i socket hsocket
      split_ifs
      · exact Grows.refl m
      · refine Grows.of_le (fun _ _ _ _ _ h => h) ?_ ?_ (Nat.le_refl _)
        · intro other hnone
          rw [get?_set] at hnone
          split_ifs at hnone
          exact hnone
        · rintro other port ⟨own, hown, hbound, hport⟩
          rw [get?_set] at hown
          split_ifs at hown with hid
          · cases hown
            exact ⟨socket, hid ▸ hsocket, hbound, hport⟩
          · exact ⟨own, hown, hbound, hport⟩
    · exact Grows.refl m
  | resumed => exact Grows.refl m
  | bound r =>
    dsimp only
    split
    · rename_i id port route rest hr
      split_ifs with hfree
      · exact (h.grows_record hr).trans ((h.record hr hfree).grows_publishFrom)
      · exact Grows.refl m
    · exact Grows.refl m
  | failed r =>
    dsimp only
    split
    · exact grows_eraseRun
    · exact Grows.refl m

theorem WellFormed.grows_step (h : m.WellFormed) {event : Event} :
    Grows m (m.step transport event) := by
  cases hready : m.ready with
  | nil =>
    rw [step_of_not_ready hready]
    exact h.grows_react
  | cons r others =>
    by_cases hevent : event = .resumed
    · subst hevent
      rw [step_resumed hready]
      unfold Manager.resume
      split
      · rename_i desired position port hr
        exact grows_listeners.trans
          (((h.deleteListener port).withReady others).grows_syncFrom)
      · exact grows_listeners
    · rw [step_of_ready hready hevent]
      exact Grows.refl m

/-- A run of TCP comes to the listener in its first loop, and will close it. -/
def Ahead (m : Manager) (r port : ℕ) (listener : Listener) : Prop :=
  ∃ desired position awaited i, m.runs.get? r = some (.close desired position awaited) ∧
    stale .tcp desired port listener = true ∧ position ≤ i ∧ m.listeners.Holds i port listener

/-- A listener that a run has found and does not want. -/
structure Doomed (transport : Transport) (m : Manager) (r port : ℕ) (listener : Listener) :
    Prop where
  used : ¬ m.Fresh listener.socket
  run_lt : r < m.clock
  closing : ¬ m.Bound listener.socket port ∨ transport = .tcp ∧ m.Ahead r port listener

section

variable {port : ℕ} {listener : Listener}

theorem WellFormed.closing_syncFrom (h : m.WellFormed) {i : ℕ}
    (hstale : stale transport desired port listener = true)
    (hholds : m.listeners.Holds i port listener) (hposition : position ≤ i) :
    ¬ (m.syncFrom transport r desired position).Bound listener.socket port ∨
      transport = .tcp ∧ (m.syncFrom transport r desired position).Ahead r port listener := by
  cases transport with
  | udp =>
    refine .inl fun hbound => ?_
    exact (h.bound_syncFrom.1 hbound).2 port listener ⟨hholds.get?, hstale⟩ rfl
  | tcp =>
    cases hnext : m.listeners.next (stale .tcp desired) position with
    | none =>
      rw [LiveMap.next_eq_none hnext hholds hposition] at hstale
      cases hstale
    | some found =>
      obtain ⟨later, port', other⟩ := found
      obtain ⟨j, rfl, hj, hother, -, hbetween⟩ := LiveMap.next_eq_some hnext
      rcases Nat.lt_trichotomy i j with hlt | rfl | hgt
      · rw [hbetween i port listener hposition hlt hholds] at hstale
        cases hstale
      · unfold LiveMap.Holds at hholds hother
        rw [hholds] at hother
        cases hother
        refine .inl fun hbound => ?_
        exact (h.bound_syncFrom.1 hbound).2 port listener ⟨_, hnext⟩ rfl
      · refine .inr ⟨rfl, desired, j + 1, port', i, ?_, hstale, hgt, ?_⟩
        · unfold Manager.syncFrom
          rw [hnext]
          exact get?_set_self _ _ _
        · unfold Manager.syncFrom
          dsimp only
          rw [hnext]
          exact hholds

section

variable (h : m.Ahead r port listener)
include h

theorem Ahead.syncFrom {r' : ℕ} (hne : r ≠ r') :
    (m.syncFrom .tcp r' desired position).Ahead r port listener := by
  obtain ⟨own, start, awaited, i, hr, hstale, hstart, hholds⟩ := h
  refine ⟨own, start, awaited, i, ?_, hstale, hstart, ?_⟩
  · unfold Manager.syncFrom
    dsimp only
    split
    · exact (get?_set_of_ne _ hne _).trans hr
    · rw [get?_runs_publishFrom hne]
      exact hr
  · unfold Manager.syncFrom
    dsimp only
    split
    · exact hholds
    · rw [listeners_publishFrom]
      exact hholds

theorem Ahead.of_eq (hlisteners : next.listeners = m.listeners)
    (hruns : next.runs.get? r = m.runs.get? r) : next.Ahead r port listener := by
  unfold Ahead
  rw [hlisteners, hruns]
  exact h

theorem Ahead.react (hwell : m.WellFormed) (event : Event) :
    ¬ m.Bound listener.socket port ∨ (m.react .tcp event).Ahead r port listener := by
  have hahead := h
  obtain ⟨own, start, awaited, i, hr, hstale, hstart, hholds⟩ := h
  have hother : ∀ {r' awaits}, m.runs.get? r' = some awaits →
      .close own start awaited ≠ awaits → r ≠ r' := by
    rintro r' awaits hr' hdiffer rfl
    exact hdiffer (Option.some.inj (hr.symm.trans hr'))
  unfold Manager.react
  cases event with
  | changed table | resumed => exact .inr hahead
  | tick =>
    have hne : r ≠ m.clock := (hwell.runs_lt r _ hr).ne
    exact .inr (hahead.of_eq rfl (get?_set_of_ne _ hne _))
  | read r' =>
    dsimp only
    split
    · rename_i hr'
      exact .inr (hahead.of_eq rfl (get?_set_of_ne _ (hother hr' nofun) _))
    · exact .inr hahead
  | unanswered r' =>
    dsimp only
    split
    · rename_i hr'
      exact .inr (hahead.of_eq rfl (get?_erase_of_ne _ (hother hr' nofun)))
    · rename_i hr'
      exact .inr (hahead.of_eq rfl (get?_erase_of_ne _ (hother hr' nofun)))
    · exact .inr hahead
  | answered r' =>
    dsimp only
    split
    · rename_i hr'
      exact .inr (hahead.syncFrom (hother hr' nofun))
    · exact .inr hahead
  | closed id =>
    dsimp only
    split
    · split_ifs
      · exact .inr hahead
      · exact .inr (hahead.of_eq rfl rfl)
    · exact .inr hahead
  | bound r' =>
    dsimp only
    split
    · rename_i id port' route rest hr'
      have hne := hother hr' nofun
      split_ifs with hfree
      · -- a port that is free for a bind is that of no bound socket
        by_cases hport : port = port'
        · subst hport
          exact .inl (free_iff.1 hfree _)
        · refine .inr ⟨own, start, awaited, i, ?_, hstale, hstart, ?_⟩
          · rw [get?_runs_publishFrom hne]
            exact (get?_erase_of_ne _ hne).trans hr
          · rw [listeners_publishFrom]
            have hset := hholds.set port' ⟨id, route⟩
            rw [if_neg hport] at hset
            exact hset
      · exact .inr hahead
    · exact .inr hahead
  | failed r' =>
    dsimp only
    split
    · rename_i hr'
      exact .inr (hahead.of_eq rfl (get?_erase_of_ne _ (hother hr' nofun)))
    · exact .inr hahead

theorem Ahead.resume (hwell : m.WellFormed) {r' : ℕ} {others : List ℕ}
    (hready : m.ready = r' :: others) (hright : m.Undisturbed .tcp .resumed) :
    ¬ m.Bound listener.socket port ∨
      ¬ (m.resume .tcp r' others).Bound listener.socket port ∨
        (m.resume .tcp r' others).Ahead r port listener := by
  have hahead := h
  obtain ⟨own, start, awaited, i, hr, hstale, hstart, hholds⟩ := h
  unfold Undisturbed at hright
  rw [hready] at hright
  unfold Manager.resume
  split
  · rename_i desired position port' hr'
    by_cases hport : port = port'
    · subst hport
      exact .inl ((hright desired position port hr').1 listener hholds.get?)
    · right
      have hmiddle := (hwell.deleteListener port').withReady others
      have hkept := hholds.delete hport
      by_cases hsame : r = r'
      · subst hsame
        rw [hr] at hr'
        cases hr'
        exact (hmiddle.closing_syncFrom hstale hkept hstart).imp_right fun hboth => hboth.2
      · have hmoved : Ahead { m with ready := others, listeners := m.listeners.delete port' } r port
            listener := ⟨own, start, awaited, i, hr, hstale, hstart, hkept⟩
        exact .inr (hmoved.syncFrom hsame)
  · exact .inr (.inr (hahead.of_eq rfl rfl))

end

theorem Doomed.step (h : Doomed transport m r port listener) (hwell : m.WellFormed)
    (hright : m.Undisturbed transport event) :
    Doomed transport (m.step transport event) r port listener := by
  have hgrows : Grows m (m.step transport event) := hwell.grows_step
  have hstill : ¬ m.Bound listener.socket port →
      ¬ (m.step transport event).Bound listener.socket port := by
    intro hnot hbound
    exact (hgrows.bound _ _ hbound).elim hnot h.used
  refine ⟨fun hfresh => h.used (hgrows.fresh _ hfresh), h.run_lt.trans_le hgrows.clock, ?_⟩
  rcases h.closing with hnot | ⟨rfl, hahead⟩
  · exact .inl (hstill hnot)
  · cases hready : m.ready with
    | nil =>
      rcases hahead.react hwell event with hnot | hlater
      · exact .inl (hstill hnot)
      · refine .inr ⟨rfl, ?_⟩
        rw [step_of_not_ready hready]
        exact hlater
    | cons r' others =>
      by_cases hevent : event = .resumed
      · subst hevent
        have hresumed := hahead.resume hwell hready hright
        rw [← step_resumed hready] at hresumed
        rcases hresumed with hnot | hclosed | hlater
        · exact .inl (hstill hnot)
        · exact .inl hclosed
        · exact .inr ⟨rfl, hlater⟩
      · refine .inr ⟨rfl, ?_⟩
        rw [step_of_ready hready hevent]
        exact hahead

theorem WellFormed.doomed_answered (h : m.WellFormed) (hready : m.ready = [])
    (hr : m.runs.get? r = some (.answer desired))
    (hlistener : m.listeners.get? port = some listener)
    (hstale : stale transport desired port listener = true) :
    Doomed transport (m.step transport (.answered r)) r port listener := by
  have hgrows : Grows m (m.step transport (.answered r)) := h.grows_step
  obtain ⟨i, hholds⟩ := LiveMap.get?_eq_some_iff.1 hlistener
  refine ⟨fun hfresh => ?_, (h.runs_lt r _ hr).trans_le hgrows.clock, ?_⟩
  · rcases hgrows.fresh _ hfresh with ⟨r', port', route, rest, hr'⟩ | hnone
    · exact (h.pending r' _ port' route rest hr').2 port listener hlistener rfl
    · obtain ⟨socket, hsocket, -⟩ := h.entry port listener hlistener
      rw [hnone] at hsocket
      cases hsocket
  · have hstep : m.step transport (.answered r) = m.syncFrom transport r desired 0 := by
      rw [step_of_not_ready hready]
      unfold Manager.react
      dsimp only
      rw [hr]
    rw [hstep]
    exact h.closing_syncFrom hstale hholds (Nat.zero_le i)

end

/-! ## Whole runs -/

theorem wellFormed_start (table : RoutingTable) : WellFormed { table } where
  entry _ _ h := nomatch h
  distinct _ _ _ h := by
    obtain ⟨_, hsocket, -⟩ := h
    cases hsocket
  pending _ _ _ _ _ h := nomatch h
  separate _ _ _ _ _ _ _ _ _ h := nomatch h
  sockets_lt _ _ h := nomatch h
  runs_lt _ _ h := nomatch h

theorem listed_start (table : RoutingTable) : Listed { table } := by
  rintro id port ⟨socket, hsocket, -⟩
  cases hsocket

theorem WellFormed.run (h : m.WellFormed) (events : List Event) :
    (Transition.run (Manager.step transport) m events).WellFormed :=
  (along_always _ m events).invariant (fun _ event hwell _ => hwell.step event) h

theorem sound_run_iff (h : m.WellFormed) (hlisted : m.Listed) (events : List Event) :
    Throughout (step transport) Recorded m events ∧
        Along (step transport) (ClosesUnwanted transport) m events ∧
        Along (step transport) (FailsAlone transport) m events ↔
      Along (step transport) (Undisturbed transport) m events := by
  induction events generalizing m with
  | nil => exact iff_of_true ⟨h.recorded_iff.2 hlisted, trivial, trivial⟩ trivial
  | cons event events ih =>
    have hnext : (m.step transport event).WellFormed := h.step event
    constructor
    · intro ⟨hrecorded, hcloses, hfails⟩
      have hkept : (m.step transport event).Listed := hnext.recorded_iff.1 hrecorded.2.start
      exact ⟨(sound_iff h hlisted).1 ⟨⟨hkept, hcloses.1⟩, hfails.1⟩,
        (ih hnext hkept).1 ⟨hrecorded.2, hcloses.2, hfails.2⟩⟩
    · intro hright
      obtain ⟨⟨hkept, hcloses⟩, hfails⟩ := (sound_iff h hlisted).2 hright.1
      obtain ⟨hrecorded, hlater, hlater'⟩ := (ih hnext hkept).2 hright.2
      exact ⟨⟨h.recorded_iff.2 hlisted, hrecorded⟩, ⟨hcloses, hlater⟩, ⟨hfails, hlater'⟩⟩

theorem WellFormed.retires (h : m.WellFormed) {events : List Event}
    (hright : Along (Manager.step transport) (Undisturbed transport) m events) :
    Retires transport m events := by
  rintro before later r desired rfl hready hr port listener hlistener hstale hpast hbound
  rw [along_append] at hright
  rw [run_append] at hpast hbound
  have hmiddle : (Transition.run (Manager.step transport) m before).WellFormed := h.run before
  have hinv : ∀ (state : Manager) (event : Event),
      state.WellFormed ∧ Doomed transport state r port listener →
      state.Undisturbed transport event → (state.step transport event).WellFormed ∧
        Doomed transport (state.step transport event) r port listener :=
    fun state event hboth hguard => ⟨hboth.1.step event, hboth.2.step hboth.1 hguard⟩
  have hdoomed := hright.2.2.invariant hinv
    ⟨hmiddle.step _, hmiddle.doomed_answered hready hr hlistener hstale⟩
  rcases hdoomed.2.closing with hnot | ⟨-, own, position, awaited, i, hstill, -⟩
  · exact hnot hbound
  · exact hpast own position awaited hstill

variable (transport)

/-- Overlapping syncs are safe in exactly the runs in which nothing comes between a run and
what it is about to close, to delete or to bind. -/
theorem safe_run_iff (table : RoutingTable) (events : List Event) :
    Safe transport { table } events ↔
      Along (step transport) (Undisturbed transport) { table } events := by
  have hsound := @sound_run_iff transport _ (wellFormed_start table) (listed_start table) events
  constructor
  · intro h
    exact hsound.1 ⟨h.recorded, h.closes, h.fails⟩
  · intro hright
    obtain ⟨hrecorded, hcloses, hfails⟩ := hsound.2 hright
    exact ⟨hrecorded, hcloses, hfails, (wellFormed_start table).retires hright⟩

/-- **Every published port has a server of its own**, in every interleaving of the runs: no
server is published under two ports, and none before its bind is answered. -/
theorem ownServers_throughout (table : RoutingTable) (events : List Event) :
    Throughout (step transport) (fun m =>
      (∀ port other listener listener', m.listeners.get? port = some listener →
        m.listeners.get? other = some listener' → listener.socket = listener'.socket →
        port = other) ∧
      ∀ r id port route rest, m.runs.get? r = some (.bind id port route rest) →
        ¬ m.Bound id port ∧ ∀ other listener, m.listeners.get? other = some listener →
          listener.socket ≠ id) { table } events := by
  have hwell := (along_always (step transport) { table } events).throughout
    (fun _ event h _ => h.step event) (wellFormed_start table)
  refine hwell.mono fun m h => ⟨?_, ?_⟩
  · intro port other listener listener' hlistener hother hsame
    obtain ⟨socket, hsocket, rfl⟩ := h.entry port listener hlistener
    obtain ⟨socket', hsocket', rfl⟩ := h.entry other listener' hother
    rw [hsame, hsocket'] at hsocket
    cases hsocket
    rfl
  · intro r id port route rest hr
    obtain ⟨⟨socket, hsocket, -, hfree⟩, hunlisted⟩ := h.pending r id port route rest hr
    refine ⟨?_, hunlisted⟩
    rintro ⟨bound, hbound, hisBound, -⟩
    rw [hsocket] at hbound
    cases hbound
    rw [hfree] at hisBound
    cases hisBound

/-- A store with these tunnels; only `t0` is on port 20000. -/
def storeOf (tunnels : OrdMap String TunnelRow) : Database where
  agents := .empty
  tunnels := tunnels
  targets := .empty
  policies := .empty
  presence := .empty
  targetSelectionCounters := .empty
  targets_keyed := empty_keyed

def portOf (id : String) : Option ℕ := if id = "t0" then some 20000 else some 20001

def rows (protocol first second third : String) : OrdMap String TunnelRow :=
  ((OrdMap.empty.set "t0"
      ⟨"t0", "org", "a1", none, "ssh", protocol, "t0.internal.tunnara", first, false⟩).set "t1"
      ⟨"t1", "org", "a1", none, "db", protocol, "t1.internal.tunnara", second, false⟩).set "t2"
    ⟨"t2", "org", "a1", none, "mq", protocol, "t2.internal.tunnara", third, false⟩

def bothTable : RoutingTable where
  db := storeOf (rows "tcp" "active" "active" "inactive")
  publicPort := portOf
  tunnels_keyed := by decide +kernel
  ports_unique := by decide +kernel

/-- `t0` is switched off. -/
def pausedTable : RoutingTable where
  db := storeOf (rows "tcp" "inactive" "active" "inactive")
  publicPort := portOf
  tunnels_keyed := by decide +kernel
  ports_unique := by decide +kernel

/-- `t0` is on again, and `t2` has the port of `t1`. -/
def handedTable : RoutingTable where
  db := storeOf (rows "tcp" "active" "inactive" "active")
  publicPort := portOf
  tunnels_keyed := by decide +kernel
  ports_unique := by decide +kernel

def udpTable : RoutingTable where
  db := storeOf (rows "udp" "active" "active" "inactive")
  publicPort := portOf
  tunnels_keyed := by decide +kernel
  ports_unique := by decide +kernel

/-- Both ports are published; while the server of `t0` waits for its client, its port is
wanted again and the other one changes hands and is published anew. -/
def handover : List Event :=
  [.tick, .read 0, .answered 0, .bound 0, .bound 0, .changed pausedTable, .tick, .read 3,
    .answered 3, .changed handedTable, .tick, .read 4, .answered 4, .closed 2, .resumed, .bound 4,
    .closed 1]

def busyPort : List Event := [.tick, .read 0, .answered 0, .failed 0]

/-- The older run closes what the newer one has published. The failing bind ends its run,
and nobody comes to the other port. -/
theorem not_safe_handover :
    ¬ Safe .tcp { table := bothTable } (handover ++ [.resumed]) ∧
      ¬ Safe .udp { table := udpTable } busyPort := by
  constructor
  · intro h
    have hlast := (along_append.1 h.closes).2.1
    have hpublished : Bound (run (step .tcp) { table := bothTable } handover) 5 20001 :=
      ⟨⟨20001, true, []⟩, by decide +kernel, rfl, rfl⟩
    have hclosed : ¬ Bound (run (step .tcp) { table := bothTable } (handover ++ [.resumed]))
        5 20001 := by
      rintro ⟨socket, hsocket, hbound, -⟩
      have hafter : (run (step .tcp) { table := bothTable } (handover ++ [.resumed])).sockets.get? 5 =
          some ⟨20001, false, [3]⟩ := by decide +kernel
      rw [hafter] at hsocket
      cases hsocket
      cases hbound
    rw [run_append] at hclosed
    have hunwanted := hlast 5 20001
      ⟨5, .noTarget ⟨"t2", "org", "a1", none, "mq", "tcp", "t2.internal.tunnara", "active", false⟩⟩
      hpublished hclosed (by decide +kernel) rfl
    unfold Unwanted at hunwanted
    revert hunwanted
    decide +kernel
  · intro h
    have hlast := h.fails.2.2.2.1 (by decide +kernel) 1 20000
      (.noTarget ⟨"t0", "org", "a1", none, "ssh", "udp", "t0.internal.tunnara", "active", false⟩)
      [(20001,
        .noTarget ⟨"t1", "org", "a1", none, "db", "udp", "t1.internal.tunnara", "active", false⟩)]
      rfl 20001 (by decide +kernel)
    rcases hlast with ⟨id, socket, hsocket, hbound, -⟩ | ⟨r, hr⟩
    · have hall : ∀ e ∈ (run (step .udp) { table := udpTable } busyPort).sockets.entries,
          e.2.bound = false := by decide +kernel
      have hfree := hall (id, socket) (get?_eq_some_iff.1 hsocket)
      rw [hfree] at hbound
      cases hbound
    · have hsize : (run (step .udp) { table := udpTable } busyPort).runs.size = 0 := by
        decide +kernel
      have hnone : (run (step .udp) { table := udpTable } busyPort).runs.get? r = none :=
        get?_of_size_eq_zero hsize r
      have hgone : ¬ OnTheWay (run (step .udp) { table := udpTable } busyPort) r 20001 := by
        unfold OnTheWay
        rw [hnone]
        exact id
      exact hgone hr

end Tunnara.Edge.Manager
