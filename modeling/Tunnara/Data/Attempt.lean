/-
# Code that may throw and that changes a state

A handler of an event loop may throw part way, with the changes made so far kept. `Guarded` says
exactly when such code goes wrong: it throws or leaves a bad state exactly when the state was bad
before or the guard does not hold. The rules compose guards along the statements of a handler.
`Keeps` is the invariant counterpart, in one direction only.
-/

import Tunnara.Data.Transition

namespace Tunnara

universe u

/-- A computation that may throw and whose state survives a throw. -/
abbrev Attempt (σ ε α : Type u) := ExceptT ε (StateM σ) α

namespace Attempt

variable {σ ε α β : Type u}

/-- How the computation ends from a state, and the state it leaves. -/
def exec (m : Attempt σ ε α) (state : σ) : Except ε α × σ := StateT.run (ExceptT.run m) state

@[simp]
theorem exec_pure (a : α) (state : σ) :
    exec (pure a : Attempt σ ε α) state = (.ok a, state) := rfl

@[simp]
theorem exec_throw (error : ε) (state : σ) :
    exec (throw error : Attempt σ ε α) state = (.error error, state) := rfl

@[simp]
theorem exec_get (state : σ) : exec (get : Attempt σ ε σ) state = (.ok state, state) := rfl

@[simp]
theorem exec_modify (f : σ → σ) (state : σ) :
    exec (modify f : Attempt σ ε PUnit) state = (.ok ⟨⟩, f state) := rfl

theorem exec_bind (m : Attempt σ ε α) (f : α → Attempt σ ε β) (state : σ) :
    exec (m >>= f) state =
      match exec m state with
      | (.ok a, next) => exec (f a) next
      | (.error error, next) => (.error error, next) := by
  change StateT.run (ExceptT.run (m >>= f)) state = _
  rw [ExceptT.run_bind, StateT.run_bind]
  unfold exec
  cases StateT.run (ExceptT.run m) state with
  | mk result next => cases result <;> rfl

variable {m : Attempt σ ε α} {f : α → Attempt σ ε β}

theorem exec_bind_eq_ok {state last : σ} {b : β} :
    exec (m >>= f) state = (.ok b, last) ↔
      ∃ a next, exec m state = (.ok a, next) ∧ exec (f a) next = (.ok b, last) := by
  rw [exec_bind]
  cases exec m state with
  | mk result next =>
    cases result with
    | ok a =>
      refine ⟨fun h => ⟨a, next, rfl, h⟩, ?_⟩
      rintro ⟨_, _, ⟨⟩, h⟩
      exact h
    | error error =>
      refine iff_of_false nofun ?_
      rintro ⟨_, _, ⟨⟩, _⟩

theorem exec_tryCatch {handler : ε → Attempt σ ε α} {state : σ} :
    exec (tryCatch m handler) state =
      match exec m state with
      | (.ok a, next) => (.ok a, next)
      | (.error error, next) => exec (handler error) next := by
  change StateT.run (ExceptT.run (tryCatch m handler)) state = _
  rw [ExceptT.run_tryCatch, StateT.run_bind]
  unfold exec
  cases StateT.run (ExceptT.run m) state with
  | mk result next => cases result <;> rfl

/-- The computation throws or leaves a bad state. -/
def Fails (bad : σ → Prop) (m : Attempt σ ε α) (state : σ) : Prop :=
  match exec m state with
  | (.ok _, next) => bad next
  | (.error _, _) => True

/-- The computation fails exactly from the bad states and from those outside the guard. -/
def Guarded (bad : σ → Prop) (m : Attempt σ ε α) (guard : σ → Prop) : Prop :=
  ∀ state, Fails bad m state ↔ bad state ∨ ¬ guard state

/-- The computation never throws and neither makes nor mends a bad state. -/
def Harmless (bad : σ → Prop) (m : Attempt σ ε α) : Prop :=
  ∀ state, Fails bad m state ↔ bad state

variable {bad : σ → Prop} {guard : σ → Prop} {guard' : σ → Prop}

theorem Guarded.congr (h : Guarded bad m guard) (hguard : ∀ state, guard state ↔ guard' state) :
    Guarded bad m guard' := by
  intro state
  rw [h state, hguard state]

theorem Harmless.guarded (h : Harmless bad m) : Guarded bad m fun _ => True := by
  intro state
  rw [h state]
  simp

variable {a : α}

theorem harmless_pure : Harmless bad (pure a : Attempt σ ε α) := fun _ => Iff.rfl

theorem harmless_modify {f : σ → σ} (h : ∀ state, bad (f state) ↔ bad state) :
    Harmless bad (modify f : Attempt σ ε PUnit) := h

theorem fails_bind (m : Attempt σ ε α) (f : α → Attempt σ ε β) (state : σ) :
    Fails bad (m >>= f) state ↔
      match exec m state with
      | (.ok a, next) => Fails bad (f a) next
      | (.error _, _) => True := by
  unfold Fails
  rw [exec_bind]
  cases exec m state with
  | mk result next => cases result <;> rfl

@[simp]
theorem fails_pure (a : α) (state : σ) : Fails bad (pure a : Attempt σ ε α) state ↔ bad state :=
  Iff.rfl

@[simp]
theorem fails_throw (error : ε) (state : σ) : Fails bad (throw error : Attempt σ ε α) state :=
  trivial

@[simp]
theorem fails_modify (f : σ → σ) (state : σ) :
    Fails bad (modify f : Attempt σ ε PUnit) state ↔ bad (f state) := Iff.rfl

@[simp]
theorem fails_get_bind (f : σ → Attempt σ ε α) (state : σ) :
    Fails bad ((get : Attempt σ ε σ) >>= f) state ↔ Fails bad (f state) state := by
  rw [fails_bind]
  rfl

@[simp]
theorem fails_modify_bind (f : σ → σ) (m : PUnit → Attempt σ ε α) (state : σ) :
    Fails bad ((modify f : Attempt σ ε PUnit) >>= m) state ↔ Fails bad (m ⟨⟩) (f state) := by
  rw [fails_bind]
  rfl

/-- Two statements in a row: the second is guarded in the state the first leaves. -/
theorem Guarded.bind {next : σ → Prop} (hm : Guarded bad m guard)
    (hf : ∀ a, Guarded bad (f a) next) :
    Guarded bad (m >>= f) fun state => guard state ∧ next (exec m state).2 := by
  intro state
  rw [fails_bind]
  have hfirst := hm state
  unfold Fails at hfirst
  cases hexec : exec m state with
  | mk result after =>
    rw [hexec] at hfirst
    cases result with
    | ok a =>
      have hsecond := hf a after
      simp only at hfirst ⊢
      rw [hsecond, hfirst, not_and_or, or_assoc, hexec]
    | error _ =>
      tauto

/-- What follows harmlessly adds nothing to the guard. -/
theorem Guarded.bind_harmless (hm : Guarded bad m guard) (hf : ∀ a, Harmless bad (f a)) :
    Guarded bad (m >>= f) guard :=
  (hm.bind fun a => (hf a).guarded).congr fun _ => by simp

/-- An update in front: the guard is read in the updated state. -/
theorem Guarded.modify_bind (hm : Guarded bad m guard) (f : σ → σ)
    (h : ∀ state, bad (f state) ↔ bad state) :
    Guarded bad ((modify f : Attempt σ ε PUnit) >>= fun _ => m) fun state => guard (f state) := by
  intro state
  rw [fails_modify_bind, hm (f state), h state]

/-- A loop over a list: each turn is guarded in the state it starts in. -/
theorem Guarded.forM {f : β → Attempt σ ε PUnit} {guard : β → σ → Prop}
    (hf : ∀ item, Guarded bad (f item) (guard item)) (items : List β) :
    Guarded bad (items.forM f) fun state =>
      Transition.Along (fun state item => (exec (f item) state).2)
        (fun state item => guard item state) state items := by
  induction items with
  | nil => exact harmless_pure.guarded
  | cons item items ih => exact (hf item).bind fun _ => ih

/-- From a state inside the guard the computation keeps the invariant, thrown or not. -/
def Keeps (inv guard : σ → Prop) (m : Attempt σ ε α) : Prop :=
  ∀ state, inv state → guard state → inv (exec m state).2

variable {inv : σ → Prop}

theorem keeps_pure : Keeps inv guard (pure a : Attempt σ ε α) := fun _ h _ => h

theorem keeps_throw {error : ε} : Keeps inv guard (throw error : Attempt σ ε α) := fun _ h _ => h

theorem keeps_modify {f : σ → σ} (h : ∀ state, inv state → guard state → inv (f state)) :
    Keeps inv guard (modify f : Attempt σ ε PUnit) := h

theorem Keeps.mono (h : Keeps inv guard m) (hguard : ∀ state, guard' state → guard state) :
    Keeps inv guard' m :=
  fun state hinv h' => h state hinv (hguard state h')

/-- Only the first of two statements may need the guard. -/
theorem Keeps.bind (hm : Keeps inv guard m) (hf : ∀ a, Keeps inv (fun _ => True) (f a)) :
    Keeps inv guard (m >>= f) := by
  intro state hinv hguard
  have hfirst := hm state hinv hguard
  rw [exec_bind]
  cases hexec : exec m state with
  | mk result next =>
    rw [hexec] at hfirst
    cases result with
    | ok a => exact hf a next hfirst trivial
    | error _ => exact hfirst

theorem Keeps.tryCatch {handler : ε → Attempt σ ε α} (hm : Keeps inv guard m)
    (hhandler : ∀ error, Keeps inv (fun _ => True) (handler error)) :
    Keeps inv guard (tryCatch m handler) := by
  intro state hinv hguard
  have hfirst := hm state hinv hguard
  rw [exec_tryCatch]
  cases hexec : exec m state with
  | mk result next =>
    rw [hexec] at hfirst
    cases result with
    | ok a => exact hfirst
    | error error => exact hhandler error next hfirst trivial

/-- An update in front that keeps both the invariant and the guard. -/
theorem Keeps.modify_bind {f : σ → σ}
    (h : ∀ state, inv state → guard state → inv (f state) ∧ guard (f state))
    (hm : Keeps inv guard m) : Keeps inv guard ((modify f : Attempt σ ε PUnit) >>= fun _ => m) :=
  fun state hinv hguard => hm (f state) (h state hinv hguard).1 (h state hinv hguard).2

theorem Keeps.get_bind {f : σ → Attempt σ ε α}
    (hf : ∀ read, Keeps inv (fun state => guard state ∧ read = state) (f read)) :
    Keeps inv guard ((get : Attempt σ ε σ) >>= f) :=
  fun state hinv hguard => hf state state hinv ⟨hguard, rfl⟩

variable {items : List β}

theorem Keeps.forM {f : β → Attempt σ ε PUnit}
    (hf : ∀ item ∈ items, Keeps inv (fun _ => True) (f item)) :
    Keeps inv (fun _ => True) (items.forM f) := by
  induction items with
  | nil => exact keeps_pure
  | cons item items ih =>
    exact (hf item List.mem_cons_self).bind fun _ =>
      ih fun other hother => hf other (List.mem_cons_of_mem _ hother)

/-- Unless it throws, the computation reaches the goal. -/
def Settles (goal : σ → Prop) (m : Attempt σ ε α) : Prop :=
  ∀ state, goal (exec m state).2 ∨ ∃ error, (exec m state).1 = .error error

variable {goal : σ → Prop}

theorem settles_modify {f : σ → σ} (h : ∀ state, goal (f state)) :
    Settles goal (modify f : Attempt σ ε PUnit) := fun state => .inl (h state)

/-- The first statement reaches the goal and the rest keeps it. -/
theorem Settles.bind_keeps (hm : Settles goal m) (hf : ∀ a, Keeps goal (fun _ => True) (f a)) :
    Settles goal (m >>= f) := by
  intro state
  have hfirst := hm state
  rw [exec_bind]
  cases hexec : exec m state with
  | mk result next =>
    rw [hexec] at hfirst
    cases result with
    | error error => exact .inr ⟨error, rfl⟩
    | ok a =>
      have hgoal : goal next := hfirst.resolve_right fun h => by simp at h
      exact .inl (hf a next hgoal trivial)

/-- The rest reaches the goal, wherever the first statement ends. -/
theorem settles_bind (hf : ∀ a, Settles goal (f a)) : Settles goal (m >>= f) := by
  intro state
  rw [exec_bind]
  cases exec m state with
  | mk result next =>
    cases result with
    | error error => exact .inr ⟨error, rfl⟩
    | ok a => exact hf a next

/-- A loop that is not cut short has taken every turn: what the turn of an item
brings about, and later turns keep, holds at the end. -/
theorem settles_forM {f : β → Attempt σ ε PUnit} {item : β} (hturn : Settles goal (f item))
    (hkeep : ∀ other ∈ items, Keeps goal (fun _ => True) (f other)) (hmem : item ∈ items) :
    Settles goal (items.forM f) := by
  induction items with
  | nil => cases hmem
  | cons first rest ih =>
    have hrest : ∀ other ∈ rest, Keeps goal (fun _ => True) (f other) :=
      fun other hother => hkeep other (List.mem_cons_of_mem _ hother)
    rcases List.mem_cons.1 hmem with rfl | hlater
    · exact hturn.bind_keeps fun _ => Keeps.forM hrest
    · exact settles_bind fun _ => ih hrest hlater

/-- From every state the computation leads to a related one, whether it throws or not. -/
def Changes (rel : σ → σ → Prop) (m : Attempt σ ε α) : Prop := ∀ state, rel state (exec m state).2

section

variable {rel : σ → σ → Prop}

theorem Changes.bind {m : Attempt σ ε α} {f : α → Attempt σ ε β} (hm : Changes rel m)
    (hf : ∀ a, Changes rel (f a)) (htrans : ∀ {a b c}, rel a b → rel b c → rel a c) :
    Changes rel (m >>= f) := by
  intro state
  have hfirst := hm state
  rw [exec_bind]
  cases hexec : exec m state with
  | mk result next =>
    rw [hexec] at hfirst
    cases result with
    | ok a => exact htrans hfirst (hf a next)
    | error error => exact hfirst

theorem Changes.forM {f : β → Attempt σ ε PUnit} (hf : ∀ item, Changes rel (f item))
    (items : List β) (hrefl : ∀ state, rel state state)
    (htrans : ∀ {a b c}, rel a b → rel b c → rel a c) : Changes rel (items.forM f) := by
  induction items with
  | nil => exact hrefl
  | cons item items ih => exact (hf item).bind (fun _ => ih) htrans

theorem Changes.tryCatch {m : Attempt σ ε α} {handler : ε → Attempt σ ε α} (hm : Changes rel m)
    (hhandler : ∀ error, Changes rel (handler error))
    (htrans : ∀ {a b c}, rel a b → rel b c → rel a c) : Changes rel (tryCatch m handler) := by
  intro state
  have hfirst := hm state
  rw [exec_tryCatch]
  cases hexec : exec m state with
  | mk result next =>
    rw [hexec] at hfirst
    cases result with
    | ok a => exact hfirst
    | error error => exact htrans hfirst (hhandler error next)

end

/-- From inside the guard, unless it throws, the computation leads to a related state. -/
def Leads (rel : σ → σ → Prop) (guard : σ → Prop) (m : Attempt σ ε α) : Prop :=
  ∀ state, guard state → ∀ a next, exec m state = (.ok a, next) → rel state next

variable {rel : σ → σ → Prop}

theorem leads_pure (hrefl : ∀ state, rel state state) :
    Leads rel guard (pure a : Attempt σ ε α) := by
  intro state _ b next h
  cases h
  exact hrefl state

theorem leads_throw {error : ε} : Leads rel guard (throw error : Attempt σ ε α) := by
  intro state _ a next h
  cases h

theorem leads_modify {f : σ → σ} (h : ∀ state, guard state → rel state (f state)) :
    Leads rel guard (modify f : Attempt σ ε PUnit) := by
  intro state hguard a next hexec
  cases hexec
  exact h state hguard

theorem Leads.mono (h : Leads rel guard m) (hguard : ∀ state, guard' state → guard state) :
    Leads rel guard' m :=
  fun state h' => h state (hguard state h')

theorem Leads.bind (htrans : ∀ {a b c}, rel a b → rel b c → rel a c) (hm : Leads rel guard m)
    (hf : ∀ a, Leads rel (fun _ => True) (f a)) : Leads rel guard (m >>= f) := by
  intro state hguard b last hexec
  rw [exec_bind] at hexec
  cases hfirst : exec m state with
  | mk result next =>
    rw [hfirst] at hexec
    cases result with
    | error error => cases hexec
    | ok a =>
      have hstart := hm state hguard a next hfirst
      exact htrans hstart (hf a next trivial b last hexec)

theorem Leads.get_bind {f : σ → Attempt σ ε α}
    (hf : ∀ read, Leads rel (fun state => guard state ∧ read = state) (f read)) :
    Leads rel guard ((get : Attempt σ ε σ) >>= f) :=
  fun state hguard a next hexec => hf state state ⟨hguard, rfl⟩ a next hexec

theorem Leads.forM {f : β → Attempt σ ε PUnit} (hrefl : ∀ state, rel state state)
    (htrans : ∀ {a b c}, rel a b → rel b c → rel a c)
    (hf : ∀ item ∈ items, Leads rel (fun _ => True) (f item)) :
    Leads rel (fun _ => True) (items.forM f) := by
  induction items with
  | nil => exact leads_pure hrefl
  | cons item items ih =>
    exact (hf item List.mem_cons_self).bind htrans fun _ =>
      ih fun other hother => hf other (List.mem_cons_of_mem _ hother)

/-- A loop over items each of which is handled where it is still as it was found:
no turn disturbs a later item. -/
theorem Leads.forM_undisturbed {f : β → Attempt σ ε PUnit} {items : List β} {found : β → σ → Prop}
    (hrefl : ∀ state, rel state state) (htrans : ∀ {a b c}, rel a b → rel b c → rel a c)
    (hf : ∀ item, Leads rel (found item) (f item))
    (hother : items.Pairwise fun item other => ∀ state next a,
      exec (f item) state = (.ok a, next) → found other state → found other next) :
    Leads rel (fun state => ∀ item ∈ items, found item state) (items.forM f) := by
  induction items with
  | nil => exact leads_pure hrefl
  | cons item items ih =>
    obtain ⟨hitem, hrest⟩ := List.pairwise_cons.1 hother
    intro state hfound a last hexec
    have hcons : exec ((item :: items).forM f) state =
        exec (f item >>= fun _ => items.forM f) state := rfl
    rw [hcons, exec_bind] at hexec
    cases hfirst : exec (f item) state with
    | mk result next =>
      rw [hfirst] at hexec
      cases result with
      | error error => cases hexec
      | ok b =>
        have hstart := hf item state (hfound item List.mem_cons_self) b next hfirst
        have hlater : ∀ other ∈ items, found other next := fun other hmem =>
          hitem other hmem state next b hfirst (hfound other (List.mem_cons_of_mem _ hmem))
        exact htrans hstart (ih hrest next hlater a last hexec)

/-- Unless it throws, the computation returns a value with the property. -/
def Returns (post : α → Prop) (m : Attempt σ ε α) : Prop :=
  ∀ state a next, exec m state = (.ok a, next) → post a

variable {post : α → Prop}

theorem returns_pure (h : post a) : Returns post (pure a : Attempt σ ε α) := by
  intro state b next hexec
  cases hexec
  exact h

theorem Returns.bind {goal : β → Prop} (hm : Returns post m)
    (hf : ∀ a, post a → Returns goal (f a)) : Returns goal (m >>= f) := by
  intro state b last hexec
  rw [exec_bind] at hexec
  cases hfirst : exec m state with
  | mk result next =>
    rw [hfirst] at hexec
    cases result with
    | error error => cases hexec
    | ok a => exact hf a (hm state a next hfirst) next b last hexec

theorem returns_ite {c : Prop} [Decidable c] {m' : Attempt σ ε α} (hm : c → Returns post m)
    (hm' : ¬ c → Returns post m') : Returns post (if c then m else m') := by
  by_cases h : c
  · rw [if_pos h]
    exact hm h
  · rw [if_neg h]
    exact hm' h

theorem returns_bind {goal : β → Prop} (hf : ∀ a, Returns goal (f a)) : Returns goal (m >>= f) := by
  have hm : Returns (fun _ => True) m := fun _ _ _ _ => trivial
  exact hm.bind fun a _ => hf a

/-- From the state, the computation returns exactly under the guard, and then what and where the
postcondition tells. -/
def Ends (guard : Prop) (post : α → σ → Prop) (m : Attempt σ ε α) (state : σ) : Prop :=
  match exec m state with
  | (.ok a, next) => guard ∧ post a next
  | (.error _, _) => ¬ guard

variable {state : σ} {guard guard' : Prop} {post : α → σ → Prop}

theorem ends_pure (h : post a state) : Ends True post (pure a : Attempt σ ε α) state :=
  ⟨trivial, h⟩

theorem ends_of_ok {next : σ} (hexec : exec m state = (.ok a, next)) (hguard : guard)
    (hpost : post a next) : Ends guard post m state := by
  unfold Ends
  rw [hexec]
  exact ⟨hguard, hpost⟩

theorem ends_of_error {error : ε} {next : σ} (hexec : exec m state = (.error error, next))
    (hguard : ¬ guard) : Ends guard post m state := by
  unfold Ends
  rw [hexec]
  exact hguard

theorem Ends.congr (h : Ends guard post m state) (hguard : guard ↔ guard') :
    Ends guard' post m state := by
  rwa [← hguard]

/-- Two computations in a row: the second one's guard may rest on the first one's. -/
theorem Ends.bind {goal : β → σ → Prop} (hm : Ends guard post m state)
    (hf : guard → ∀ a next, post a next → Ends guard' goal (f a) next) :
    Ends (guard ∧ guard') goal (m >>= f) state := by
  unfold Ends at hm
  cases hexec : exec m state with
  | mk result next =>
    rw [hexec] at hm
    cases result with
    | ok a =>
      have hrest := hf hm.1 a next hm.2
      unfold Ends at hrest ⊢
      rw [exec_bind, hexec]
      dsimp only
      cases hlast : exec (f a) next with
      | mk last final =>
        rw [hlast] at hrest
        cases last with
        | ok b => exact ⟨⟨hm.1, hrest.1⟩, hrest.2⟩
        | error error => exact fun h => hrest h.2
    | error error =>
      have hstop : exec (m >>= f) state = (.error error, next) := by
        rw [exec_bind, hexec]
      exact ends_of_error hstop fun h => hm h.1

end Attempt

end Tunnara
