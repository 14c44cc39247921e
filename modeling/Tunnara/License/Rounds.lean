/-
# How often the server is asked

After a registration that went through `evaluate_legacy` starts again with the new answer,
whatever it says. A server that takes every registration and goes on answering that the
company or the device is missing is asked for ever.
-/

import Tunnara.License.Decision

namespace Tunnara.License

open Console

variable (chrono : Chrono) (numberText : Number → String) (config : LicenseConfig)
  (input : LicenseCheckInput) (usedOfflineCache : Bool)

/-- The evaluation of any answer ends within a number of passes, however the server behaves. A
pass makes at most two calls before it decides or starts again, and one after its decision. -/
def EndsWithin (bound : ℕ) : Prop :=
  ∀ (server : ℕ → Round) (answer : Value) (payload : LicenseApiResponse),
    normalizeResponse chrono numberText answer = some payload →
    (evaluateLegacy chrono numberText config input usedOfflineCache
      ((List.range bound).map server) answer payload).isSome

/-- Neither a company nor a device is registered. -/
def RegistersNothing : Prop :=
  input.allowCompanyAutoCreate.getD config.autoRegisterCompanyOnMissing = false ∧
    input.allowDeviceAutoCreate.getD config.autoRegisterDeviceOnMissing = false

section

variable {chrono numberText config input usedOfflineCache} {round : Round}
  {payload : LicenseApiResponse}

theorem rereads_of_registersNothing (h : RegistersNothing config input) :
    round.rereads chrono numberText config input payload = none := by
  unfold Round.rereads
  rw [h.1, h.2, Bool.and_false]
  simp

theorem endsWithin_one (h : RegistersNothing config input) :
    EndsWithin chrono numberText config input usedOfflineCache 1 := by
  intro server answer payload _
  show (evaluateLegacy chrono numberText config input usedOfflineCache [server 0] answer
    payload).isSome
  rcases @evaluateLegacy_cons chrono numberText config input usedOfflineCache (server 0) [] answer
    payload with ⟨next, registered, hreread, -⟩ | ⟨-, decision, heq, -⟩
  · rw [rereads_of_registersNothing h] at hreread
    cases hreread
  · rw [heq]
    rfl

theorem evaluateLegacy_stubborn {answer : Value}
    (h : round.rereads chrono numberText config input payload = some (answer, payload))
    (passes : List ℕ) :
    evaluateLegacy chrono numberText config input usedOfflineCache (passes.map fun _ => round)
      answer payload = none := by
  induction passes with
  | nil => rfl
  | cons pass passes ih =>
    rcases evaluateLegacy_cons round (passes.map fun _ => round) answer payload with
      ⟨next, registered, hreread, heq⟩ | ⟨hreread, -⟩
    · rw [h] at hreread
      cases hreread
      exact heq.trans ih
    · rw [h] at hreread
      cases hreread

theorem not_endsWithin_of_stubborn (round : Round) {answer : Value}
    (hanswer : normalizeResponse chrono numberText answer = some payload)
    (h : round.rereads chrono numberText config input payload = some (answer, payload))
    (bound : ℕ) : ¬ EndsWithin chrono numberText config input usedOfflineCache bound := by
  intro hends
  have hsome := hends (fun _ => round) answer payload hanswer
  rw [evaluateLegacy_stubborn h] at hsome
  cases hsome

end

/-- The answer with a status and nothing else. -/
def bareAnswer (status : ℤ) : Value := .object [("status", .number (.int status))]

def bareLicense : LicenseRecord := { active := true, devicesInUse := some 0 }

/-- Every registration goes through, and the answer stays the same. -/
def stubbornRound (status : ℤ) : Round := ⟨.ok (), some (bareAnswer status), 0, .ok (), 0⟩

theorem normalizeResponse_bareAnswer {status : ℤ} (h : status = 0 ∨ status = 1) :
    normalizeResponse chrono numberText (bareAnswer status) =
      some ⟨status, none, bareLicense⟩ := by
  rcases h with rfl | rfl <;> rfl

/-- **When the evaluation ends**, for every configuration and every input: exactly when it
registers nothing is the number of passes bounded whatever the server answers. -/
theorem endsWithin_iff :
    (∃ bound, EndsWithin chrono numberText config input usedOfflineCache bound) ↔
      RegistersNothing config input := by
  constructor
  · rintro ⟨bound, hends⟩
    have hreread : ∀ {status}, (status = 0 ∨ status = 1) →
        (stubbornRound status).reread chrono numberText =
          some (bareAnswer status, ⟨status, none, bareLicense⟩) := by
      intro status hstatus
      show (normalizeResponse chrono numberText (bareAnswer status)).map _ = _
      rw [normalizeResponse_bareAnswer chrono numberText hstatus]
      rfl
    constructor
    · by_contra hcompany
      rw [Bool.not_eq_false] at hcompany
      refine not_endsWithin_of_stubborn (stubbornRound 0)
        (normalizeResponse_bareAnswer chrono numberText (.inl rfl)) ?_ bound hends
      unfold Round.rereads
      rw [if_pos rfl, if_pos hcompany, hreread (.inl rfl)]
    · by_contra hdevice
      rw [Bool.not_eq_false] at hdevice
      refine not_endsWithin_of_stubborn (stubbornRound 1)
        (normalizeResponse_bareAnswer chrono numberText (.inr rfl)) ?_ bound hends
      unfold Round.rereads
      rw [hdevice, hreread (.inr rfl)]
      rfl
  · exact fun h => ⟨1, endsWithin_one h⟩

/-- The server goes on answering that the company is missing. -/
theorem not_endsWithin_missing : ¬ ∀ (config : LicenseConfig) (input : LicenseCheckInput),
    ∃ bound, EndsWithin plainChrono (fun _ => "") config input false bound := by
  intro h
  obtain ⟨bound, hends⟩ := h { plainConfig with autoRegisterCompanyOnMissing := true } (station "K1")
  exact not_endsWithin_of_stubborn (stubbornRound 0)
    (normalizeResponse_bareAnswer _ _ (.inl rfl)) rfl bound hends

end Tunnara.License
