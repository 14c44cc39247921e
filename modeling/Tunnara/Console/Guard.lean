/-
# The administrative guard

A master's session and an explicit flag are all that `support_guard_provision` asks for when it
replaces the secrets of a guard that is there. Of the unlock sessions, which it leaves alone, each
was opened against the secret of its time.
-/

import Tunnara.Console.Http
import Tunnara.Data.Transition

namespace Tunnara.Console.Guard

open Transition

/-- The row of `admin_guard`. -/
structure AdminGuard where
  (supportSecretHash totpSecretEncrypted : String)
  totpEnabled : Bool
  (recoveryCodesEncrypted lastRotatedAt : String)

/-- A row of `admin_unlock_sessions`. -/
structure UnlockSession where
  usuarioId : ℕ
  (scope unlockToken expiresAt lastUsedAt : String)

structure GuardState where
  guard : Option AdminGuard := none
  sessions : List UnlockSession := []

/-- The functions of `security.rs`, with the key of the machine. -/
structure Security where
  verifyPassword (password hash : String) : Except String Bool
  verifyTotpCode (secret code now : String) : Except String Bool
  encryptText : String → String
  decryptText : String → Except String String

/-- What `support_guard_provision` draws. The hash of the secret is salted and may fail. -/
structure Drawn where
  supportSecretHash : Except String String
  (totpSecret recoveryCodes : String)

inductive Command
  | provision (forceRotate : Option Bool) (drawn : Drawn)
  | enableTotp (currentPassword supportSecret totpCode : String)
  | unlock (currentPassword supportSecret : String) (totpCode scope : Option String)
      (unlockToken expiresAt : String)
  | requireUnlock (userId : ℕ) (unlockToken scope : String)

/-- A command, what `ensure_master` says of its caller, and the password hash in `usuarios`. -/
structure Event where
  master : Except String ℕ
  passwordHash : Except String String
  now : String
  command : Command

variable (security : Security) (state : GuardState) (event : Event)

/-- A check that ends the command with the message when it does not hold. -/
def ensure (check : Except String Bool) (message : String) : Except String Unit := do
  if ← check then pure () else .error message

/-- `guard_row`, where there must be one. -/
def guardRow : Except String AdminGuard :=
  match state.guard with
  | some guard => .ok guard
  | none => .error "Proteção administrativa ainda não provisionada."

/-- `decrypt_guard_secret` of the TOTP secret. -/
def decryptGuardSecret (guard : AdminGuard) (missing : String) : Except String String :=
  if isBlank guard.totpSecretEncrypted then .error missing
  else security.decryptText guard.totpSecretEncrypted

/-- `support_guard_provision`. The audit is written after the row and takes nothing back. -/
def supportGuardProvision (forceRotate : Option Bool) (drawn : Drawn) :
    Except String GuardState := do
  let _ ← event.master
  ensure (.ok (state.guard.isNone || forceRotate.getD false))
    ("A proteção administrativa já foi provisionada. " ++
      "Use rotação explícita para gerar novos segredos.")
  let supportSecretHash ← drawn.supportSecretHash
  return { state with guard := some {
    supportSecretHash
    totpSecretEncrypted := security.encryptText drawn.totpSecret
    totpEnabled := false
    recoveryCodesEncrypted := security.encryptText drawn.recoveryCodes
    lastRotatedAt := event.now } }

def supportGuardEnableTotp (currentPassword supportSecret totpCode : String) :
    Except String GuardState := do
  let _ ← event.master
  let guard ← guardRow state
  ensure (security.verifyPassword supportSecret guard.supportSecretHash)
    "Secret de suporte inválido."
  let passwordHash ← event.passwordHash
  ensure (security.verifyPassword (trimText currentPassword) passwordHash) "Senha atual inválida."
  let totpSecret ← decryptGuardSecret security guard
    "Secret TOTP não encontrado para provisionamento."
  ensure (security.verifyTotpCode totpSecret totpCode event.now) "Código TOTP inválido."
  return { state with guard := some { guard with totpEnabled := true } }

/-- The second factor of `support_guard_unlock`. -/
def checkTotp (guard : AdminGuard) (totpCode : Option String) : Except String Unit := do
  if guard.totpEnabled then
    let totpSecret ← decryptGuardSecret security guard "Secret TOTP não configurado."
    ensure (security.verifyTotpCode totpSecret (totpCode.getD "") event.now) "Código TOTP inválido."

/-- `support_guard_unlock`; `unlock_token` is unique. -/
def supportGuardUnlock (currentPassword supportSecret : String) (totpCode scope : Option String)
    (unlockToken expiresAt : String) : Except String GuardState := do
  let usuarioId ← event.master
  let guard ← guardRow state
  let passwordHash ← event.passwordHash
  ensure (security.verifyPassword (trimText currentPassword) passwordHash) "Senha atual inválida."
  ensure (security.verifyPassword supportSecret guard.supportSecretHash)
    "Secret de suporte inválido."
  checkTotp security event guard totpCode
  ensure (.ok (state.sessions.all (·.unlockToken ≠ unlockToken)))
    "Falha ao criar sessão administrativa reforçada"
  return { state with sessions := state.sessions ++
    [⟨usuarioId, scope.getD "global", unlockToken, expiresAt, event.now⟩] }

def requireAdminUnlock (userId : ℕ) (unlockToken scope now : String) :
    Except String GuardState := do
  let token := trimText unlockToken
  ensure (.ok (token ≠ "")) "Autorização administrativa reforçada é obrigatória."
  ensure (.ok (state.sessions.any fun session => session.usuarioId = userId ∧
      session.unlockToken = token ∧ (session.scope = scope ∨ session.scope = "global") ∧
      now < session.expiresAt))
    "Sessão administrativa reforçada ausente, inválida ou expirada."
  return { state with sessions := state.sessions.map fun session =>
    if session.unlockToken = token then { session with lastUsedAt := now } else session }

def call : Except String GuardState :=
  match event.command with
  | .provision forceRotate drawn => supportGuardProvision security state event forceRotate drawn
  | .enableTotp currentPassword supportSecret totpCode =>
    supportGuardEnableTotp security state event currentPassword supportSecret totpCode
  | .unlock currentPassword supportSecret totpCode scope unlockToken expiresAt =>
    supportGuardUnlock security state event currentPassword supportSecret totpCode scope
      unlockToken expiresAt
  | .requireUnlock userId unlockToken scope =>
    requireAdminUnlock state userId unlockToken scope event.now

def step : GuardState :=
  match call security state event with
  | .ok next => next
  | .error _ => state

/-- A provisioned guard keeps its secrets, and asks for the code if it did before. -/
def Preserved (next : GuardState) : Prop :=
  ∀ guard, state.guard = some guard → ∃ later, next.guard = some later ∧
    later.supportSecretHash = guard.supportSecretHash ∧
    later.totpSecretEncrypted = guard.totpSecretEncrypted ∧
    later.recoveryCodesEncrypted = guard.recoveryCodesEncrypted ∧
    (guard.totpEnabled → later.totpEnabled)

/-- The caller has an unlock token that `require_admin_unlock` takes. -/
def Passes : Prop :=
  ∃ userId unlockToken scope next, event.master = .ok userId ∧
    requireAdminUnlock state userId unlockToken scope event.now = .ok next

/-- The command gives out the unlock token against the secret, and the code if one is due. -/
def Issues (token : String) : Prop :=
  ∃ guard currentPassword supportSecret totpCode scope expiresAt, state.guard = some guard ∧
    event.command = .unlock currentPassword supportSecret totpCode scope token expiresAt ∧
    security.verifyPassword supportSecret guard.supportSecretHash = .ok true ∧
    checkTotp security event guard totpCode = .ok ()

/-- Secrets are replaced, and the second factor is dropped, only with an unlock token. -/
def RotationGuarded (events : List Event) : Prop :=
  Along (step security) (fun state event =>
    Preserved state (step security state event) ∨ Passes state event) {} events

/-- After a provisioning only the unlock tokens count that were given out later. -/
def TokensRenewed (events : List Event) : Prop :=
  ∀ before event after, events = before ++ event :: after →
    (∃ forceRotate drawn next, event.command = .provision forceRotate drawn ∧
      call security (run (step security) {} before) event = .ok next) →
    ∀ {userId unlockToken scope now next},
      requireAdminUnlock (run (step security) {} events) userId unlockToken scope now = .ok next →
        ∃ middle issue rest, after = middle ++ issue :: rest ∧
          Issues security (run (step security) {} (before ++ event :: middle)) issue
            (trimText unlockToken)

/-- A master rotates a guard that is provisioned. -/
def Rotates : Prop :=
  state.guard.isSome ∧ event.master.isOk ∧ ∃ drawn, event.command = .provision (some true) drawn

def GuardState.tokens (state : GuardState) : List String := state.sessions.map (·.unlockToken)

variable {security state event} {next : GuardState}

theorem ensure_eq_ok {check : Except String Bool} {message : String} {u : Unit} :
    ensure check message = .ok u ↔ check = .ok true := by
  rcases check with error | _ | _ <;> simp [ensure, bind, Except.bind, pure, Except.pure]

theorem guardRow_eq_ok {guard : AdminGuard} :
    guardRow state = .ok guard ↔ state.guard = some guard := by
  unfold guardRow
  cases state.guard <;> simp

theorem provision_ok {forceRotate : Option Bool} {drawn : Drawn}
    (h : supportGuardProvision security state event forceRotate drawn = .ok next) :
    next.sessions = state.sessions ∧ event.master.isOk ∧
      (state.guard = none ∨ forceRotate = some true) := by
  simp only [supportGuardProvision, bind_eq_ok, ensure_eq_ok] at h
  obtain ⟨userId, hmaster, -, hforce, hash, -, hnext⟩ := h
  cases hnext
  refine ⟨rfl, by rw [hmaster]; rfl, ?_⟩
  cases forceRotate <;> simp_all

theorem enableTotp_ok {currentPassword supportSecret totpCode : String}
    (h : supportGuardEnableTotp security state event currentPassword supportSecret totpCode =
      .ok next) :
    ∃ guard, state.guard = some guard ∧
      next = { state with guard := some { guard with totpEnabled := true } } := by
  simp only [supportGuardEnableTotp, bind_eq_ok, guardRow_eq_ok] at h
  obtain ⟨-, -, guard, hguard, -, -, -, -, -, -, -, -, -, -, hnext⟩ := h
  cases hnext
  exact ⟨guard, hguard, rfl⟩

theorem unlock_ok {currentPassword supportSecret : String} {totpCode scope : Option String}
    {unlockToken expiresAt : String} (hcommand : event.command =
      .unlock currentPassword supportSecret totpCode scope unlockToken expiresAt)
    (h : supportGuardUnlock security state event currentPassword supportSecret totpCode scope
      unlockToken expiresAt = .ok next) :
    next.guard = state.guard ∧ next.tokens = state.tokens ++ [unlockToken] ∧
      Issues security state event unlockToken := by
  simp only [supportGuardUnlock, bind_eq_ok, ensure_eq_ok, guardRow_eq_ok] at h
  obtain ⟨usuarioId, -, guard, hguard, -, -, -, -, -, hsecret, _, htotp, -, -, hnext⟩ := h
  cases hnext
  exact ⟨rfl, by simp [GuardState.tokens], guard, _, _, _, _, _, hguard, hcommand, hsecret, htotp⟩

theorem requireAdminUnlock_ok {userId : ℕ} {unlockToken scope now : String}
    (h : requireAdminUnlock state userId unlockToken scope now = .ok next) :
    next.guard = state.guard ∧ next.tokens = state.tokens ∧
      trimText unlockToken ∈ state.tokens := by
  simp only [requireAdminUnlock, bind_eq_ok, ensure_eq_ok] at h
  obtain ⟨-, -, -, hfound, hnext⟩ := h
  cases hnext
  refine ⟨rfl, ?_, ?_⟩
  · simp only [GuardState.tokens, List.map_map]
    refine List.map_congr_left fun session _ => ?_
    dsimp only [Function.comp_apply]
    split_ifs <;> rfl
  · simp only [Except.ok.injEq, List.any_eq_true, decide_eq_true_eq] at hfound
    obtain ⟨session, hmem, -, htoken, -⟩ := hfound
    exact List.mem_map.2 ⟨session, hmem, htoken⟩

theorem step_cases (security : Security) (state : GuardState) (event : Event) :
    (step security state event).guard = state.guard ∧
        (∀ token ∈ (step security state event).tokens,
          token ∈ state.tokens ∨ Issues security state event token) ∨
      (step security state event).sessions = state.sessions ∧
        (Preserved state (step security state event) ∨ Rotates state event) := by
  unfold step
  cases hcall : call security state event with
  | error error => exact .inl ⟨rfl, fun _ => .inl⟩
  | ok next =>
    unfold call at hcall
    cases hcommand : event.command with
    | provision forceRotate drawn =>
      rw [hcommand] at hcall
      obtain ⟨hsessions, hmaster, hforce⟩ := provision_ok hcall
      refine .inr ⟨hsessions, ?_⟩
      cases hguard : state.guard with
      | none => exact .inl fun guard h => by simp [hguard] at h
      | some guard =>
        obtain hnone | rfl := hforce
        · rw [hnone] at hguard
          cases hguard
        · exact .inr ⟨by rw [hguard]; rfl, hmaster, drawn, hcommand⟩
    | enableTotp currentPassword supportSecret totpCode =>
      rw [hcommand] at hcall
      obtain ⟨guard, hguard, rfl⟩ := enableTotp_ok hcall
      refine .inr ⟨rfl, .inl fun other hother => ?_⟩
      rw [hguard] at hother
      cases hother
      exact ⟨_, rfl, rfl, rfl, rfl, fun _ => rfl⟩
    | unlock currentPassword supportSecret totpCode scope unlockToken expiresAt =>
      rw [hcommand] at hcall
      obtain ⟨hguard, htokens, hissues⟩ := unlock_ok hcommand hcall
      refine .inl ⟨hguard, fun token htoken => ?_⟩
      rw [htokens, List.mem_append, List.mem_singleton] at htoken
      rcases htoken with hold | rfl
      · exact .inl hold
      · exact .inr hissues
    | requireUnlock userId unlockToken scope =>
      rw [hcommand] at hcall
      obtain ⟨hguard, htokens, -⟩ := requireAdminUnlock_ok hcall
      exact .inl ⟨hguard, fun token htoken => .inl (htokens ▸ htoken)⟩

theorem preserved_step {security : Security} {state : GuardState} {event : Event} :
    Preserved state (step security state event) ∨ Rotates state event := by
  rcases step_cases security state event with ⟨hguard, -⟩ | ⟨-, h⟩
  · exact .inl fun guard hold => ⟨guard, hguard.trans hold, rfl, rfl, rfl, id⟩
  · exact h

theorem tokens_step (security : Security) (token : String) (state : GuardState) (event : Event)
    (h : token ∈ (step security state event).tokens) :
    token ∈ state.tokens ∨ Issues security state event token := by
  rcases step_cases security state event with ⟨-, htokens⟩ | ⟨hsessions, -⟩
  · exact htokens token h
  · unfold GuardState.tokens at h
    rw [hsessions] at h
    exact .inl h

/-- **What holds of the guard in every run**: its secrets and its second factor stay but for a
master's explicit rotation, and every unlock token that is accepted was given out in the run,
against the secret and the code of that time. -/
theorem guard_run (security : Security) (events : List Event) :
    Along (step security) (fun state event =>
      Preserved state (step security state event) ∨ Rotates state event) {} events ∧
      ∀ {userId unlockToken scope now next},
        requireAdminUnlock (run (step security) {} events) userId unlockToken scope now = .ok next →
          ∃ before issue after, events = before ++ issue :: after ∧
            Issues security (run (step security) {} before) issue (trimText unlockToken) := by
  constructor
  · exact (along_always ..).mono fun state event _ => preserved_step
  · intro userId unlockToken scope now next hunlock
    obtain ⟨-, -, htoken⟩ := requireAdminUnlock_ok hunlock
    refine (run_origin (fun state : GuardState => trimText unlockToken ∈ state.tokens)
      (tokens_step security (trimText unlockToken)) htoken).resolve_left ?_
    exact List.not_mem_nil

/-- Texts that are their own hash, cipher and code. -/
def plainSecurity : Security where
  verifyPassword password hash := .ok (password == hash)
  verifyTotpCode secret code _ := .ok (secret == code)
  encryptText := id
  decryptText := .ok

def rotatedRun : List Event :=
  [.provision none ⟨.ok "first", "first", "first"⟩, .unlock "senha" "first" none none "token" "2",
    .provision (some true) ⟨.ok "second", "second", "second"⟩].map (⟨.ok 1, .ok "senha", "1", ·⟩)

theorem not_guarded_rotation : ¬ RotationGuarded plainSecurity (rotatedRun.eraseIdx 1) ∧
    ¬ TokensRenewed plainSecurity rotatedRun := by
  constructor
  · rintro ⟨-, hpreserved | ⟨userId, unlockToken, scope, next, -, hunlock⟩, -⟩
    · obtain ⟨later, hlater, hsecret, -⟩ := hpreserved _ rfl
      cases hlater
      exact absurd hsecret (by decide)
    · obtain ⟨-, -, htoken⟩ := requireAdminUnlock_ok hunlock
      cases htoken
  · intro h
    obtain ⟨middle, issue, rest, hnil, -⟩ :=
      @h (rotatedRun.take 2) _ [] rfl ⟨some true, _, _, rfl, rfl⟩ 1 "token" "global" "1" _ rfl
    cases middle <;> cases hnil

end Tunnara.Console.Guard
