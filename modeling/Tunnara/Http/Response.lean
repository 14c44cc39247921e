/-
# The response of a request handler

A handler writes one response: it sets headers, sends them with a status, and ends the
body. Once the headers are sent, setting or sending them throws, and so does a status or
a header that the protocol does not have. The handler is an `Attempt` over the response,
and its promise is rejected exactly when it throws.
-/

import Tunnara.Data.Attempt
import Tunnara.Js.Value

namespace Tunnara.Http

open Attempt

/-- The content of a header: a text, or the decimal text of a number. -/
inductive HeaderContent
  | text (s : String)
  | number (n : ℕ)

abbrev Header := String × HeaderContent

def isHeaderChar (c : Char) : Bool :=
  c = '\t' || ' ' ≤ c && c ≤ '~' || 0x80 ≤ c.val && c.val ≤ 0xff

/-- A character of a header's name. -/
def isNameChar (c : Char) : Bool :=
  c.isAlphanum || c ∈ ['!', '#', '$', '%', '&', '*', '+', '-', '.', '^', '_', '|', '~'] ||
    c.val = 0x27 || c.val = 0x60

def HeaderContent.valid : HeaderContent → Bool
  | .text s => s.toList.all isHeaderChar
  | .number _ => true

def validHeader (header : Header) : Bool :=
  header.1 ≠ "" && header.1.toList.all isNameChar && header.2.valid

/-- The status codes that can be sent. -/
abbrev IsStatus (status : ℤ) : Prop := 100 ≤ status ∧ status ≤ 999

/-- An error that is thrown while a request is handled. The code gives its errors status
codes that can be sent. -/
structure HttpError extends JsError where
  retryAfter : Option ℕ := none
  valid : ∀ status, statusCode = some status → IsStatus status

/-- An error of the language or the platform. -/
def plainError (message : String) : HttpError where
  message := message
  valid _ h := by cases h

structure Response where
  headers : List Header
  /-- The status, once the headers are sent. -/
  status : Option ℤ
  (ended destroyed : Bool)

/-- What a handler is given. -/
def Response.fresh : Response := ⟨[], none, false, false⟩

def headersSent : HttpError := plainError "Cannot set headers after they are sent to the client"

abbrev Handler := Attempt Response HttpError

def setHeader (name : String) (content : HeaderContent) : Handler Unit := do
  let response ← get
  if response.status.isSome then throw headersSent
  else if !validHeader (name, content) then throw (plainError "Invalid character in header content")
  else modify fun response =>
    { response with
      headers := response.headers.filter (fun header => header.1 ≠ name) ++ [(name, content)] }

def writeHead (status : ℤ) (headers : List Header) : Handler Unit := do
  let response ← get
  if response.status.isSome then throw headersSent
  else if ¬ IsStatus status then throw (plainError "Invalid status code")
  else if !headers.all validHeader then throw (plainError "Invalid character in header content")
  else modify fun response => { response with headers := response.headers ++ headers, status }

def finish : Handler Unit := modify fun response => { response with ended := true }

def destroy : Handler Unit := modify fun response => { response with destroyed := true }

/-- A part of a handler that does not touch the response. -/
def compute {α : Type} (result : Except HttpError α) : Handler α := ExceptT.mk (pure result)

/-- A response has been sent, to its end unless the connection is destroyed. -/
structure Response.Answered (response : Response) : Prop where
  sent : response.status.isSome
  finished : response.ended = true ∨ response.destroyed = true

/-- The promise of the handler is not rejected, and a response has been sent. -/
def Responds (handler : Handler Unit) : Prop :=
  ∃ response, exec handler .fresh = (.ok (), response) ∧ response.Answered

variable {response : Response}

theorem exec_compute {α : Type} (result : Except HttpError α) :
    exec (compute result) response = (result, response) := rfl

theorem exec_setHeader {name : String} {content : HeaderContent} (hunsent : response.status = none)
    (hvalid : validHeader (name, content)) :
    ∃ next, exec (setHeader name content) response = (.ok (), next) ∧ next.status = none := by
  unfold setHeader
  simp only [exec_bind, exec_get, hunsent, Option.isSome_none, hvalid, Bool.not_true,
    Bool.false_eq_true, if_false]
  exact ⟨_, rfl, hunsent⟩

variable {headers : List Header}

theorem exec_writeHead {status : ℤ} (hunsent : response.status = none)
    (hstatus : IsStatus status) (hvalid : headers.all validHeader) :
    exec (writeHead status headers) response =
      (.ok (), { response with headers := response.headers ++ headers, status := some status }) := by
  unfold writeHead
  simp only [exec_bind, exec_get, hunsent, Option.isSome_none, Bool.false_eq_true, if_false,
    not_not.2 hstatus, hvalid, Bool.not_true]
  rfl

theorem exec_setHeader_sent {name : String} {content : HeaderContent}
    (hsent : response.status.isSome) :
    exec (setHeader name content) response = (.error headersSent, response) := by
  unfold setHeader
  simp only [exec_bind, exec_get, hsent, if_true, exec_throw]

theorem exec_writeHead_sent {status : ℤ} (hsent : response.status.isSome) :
    exec (writeHead status headers) response = (.error headersSent, response) := by
  unfold writeHead
  simp only [exec_bind, exec_get, hsent, if_true, exec_throw]

theorem exec_writeHead_cases {status : ℤ} {response : Response} :
    (∃ error, exec (writeHead status headers) response = (.error error, response)) ∨
      exec (writeHead status headers) response =
        (.ok (), { response with headers := response.headers ++ headers, status := some status }) := by
  by_cases hunsent : response.status = none
  · by_cases hstatus : IsStatus status
    · by_cases hvalid : headers.all validHeader
      · exact .inr (exec_writeHead hunsent hstatus hvalid)
      · left
        unfold writeHead
        simp only [exec_bind, exec_get, hunsent, Option.isSome_none, Bool.false_eq_true, if_false,
          not_not.2 hstatus, Bool.not_eq_true _ ▸ hvalid, Bool.not_false, if_true]
        exact ⟨_, rfl⟩
    · left
      unfold writeHead
      simp only [exec_bind, exec_get, hunsent, Option.isSome_none, Bool.false_eq_true, if_false,
        hstatus, not_false_eq_true, if_true]
      exact ⟨_, rfl⟩
  · exact .inl ⟨headersSent, exec_writeHead_sent (Option.isSome_iff_ne_none.2 hunsent)⟩

end Tunnara.Http
