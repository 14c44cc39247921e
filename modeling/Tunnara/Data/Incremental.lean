/-
# Decoding a stream that arrives in pieces

A decoder takes one item at a time off the front of a buffer and leaves the buffer alone while its
front is incomplete. It is *stable* if bytes that arrive later never change an item it has already
taken. Then what a stream decodes to does not depend on how it was cut into chunks.
-/

import Mathlib.Data.List.Basic

namespace Tunnara

universe u v

/-- Takes the first item off a buffer that has a complete one. -/
structure Decoder (β : Type u) (ε : Type v) where
  next : List β → Option (ε × List β)
  shrinks : ∀ {buffer item rest}, next buffer = some (item, rest) → rest.length < buffer.length
  stable : ∀ {buffer item rest} (more), next buffer = some (item, rest) →
    next (buffer ++ more) = some (item, rest ++ more)

namespace Decoder

variable {β : Type u} {ε : Type v} (decoder : Decoder β ε)

/-- Take items as long as there is a complete one; the rest is kept. -/
def decode (buffer : List β) : List ε × List β :=
  match hnext : decoder.next buffer with
  | none => ([], buffer)
  | some (item, rest) =>
    have _ := decoder.shrinks hnext
    (item :: (decode rest).1, (decode rest).2)
termination_by buffer.length

variable {decoder} {buffer : List β}

theorem decode_of_none (h : decoder.next buffer = none) : decoder.decode buffer = ([], buffer) := by
  rw [decode]
  split
  · rfl
  · rename_i heq
    rw [h] at heq
    cases heq

theorem decode_of_some {rest : List β} {item : ε} (h : decoder.next buffer = some (item, rest)) :
    decoder.decode buffer = (item :: (decoder.decode rest).1, (decoder.decode rest).2) := by
  rw [decode]
  split
  · rename_i heq
    rw [h] at heq
    cases heq
  · rename_i heq
    rw [h] at heq
    cases heq
    rfl

/-- What follows the items of a buffer may be decoded later, together with the rest. -/
theorem decode_append (buffer more : List β) :
    decoder.decode (buffer ++ more) =
      ((decoder.decode buffer).1 ++ (decoder.decode ((decoder.decode buffer).2 ++ more)).1,
        (decoder.decode ((decoder.decode buffer).2 ++ more)).2) := by
  induction buffer using decode.induct decoder with
  | case1 buffer hnext => rw [decode_of_none hnext, List.nil_append]
  | case2 buffer item rest hnext _ ih =>
    rw [decode_of_some hnext, decode_of_some (decoder.stable more hnext), ih, List.cons_append]

theorem exists_next_of_mem {item : ε} (h : item ∈ (decoder.decode buffer).1) :
    ∃ front rest, decoder.next front = some (item, rest) := by
  induction buffer using decode.induct decoder with
  | case1 buffer hnext =>
    rw [decode_of_none hnext] at h
    cases h
  | case2 buffer first rest hnext _ ih =>
    rw [decode_of_some hnext] at h
    rcases List.mem_cons.1 h with rfl | hlater
    · exact ⟨buffer, rest, hnext⟩
    · exact ih hlater

/-- The bytes decode to the item, whatever follows them. -/
def Encodes (decoder : Decoder β ε) (item : ε) (bytes : List β) : Prop :=
  ∀ more, decoder.next (bytes ++ more) = some (item, more)

theorem decode_flatMap {α : Type*} {item : α → ε} {encode : α → List β} {values : List α}
    (hempty : decoder.next [] = none)
    (h : ∀ value ∈ values, decoder.Encodes (item value) (encode value)) :
    decoder.decode (values.flatMap encode) = (values.map item, []) := by
  induction values with
  | nil => exact decode_of_none hempty
  | cons value rest ih =>
    have hfirst := h value List.mem_cons_self (rest.flatMap encode)
    have hrest := ih fun other hother => h other (List.mem_cons_of_mem _ hother)
    rw [List.flatMap_cons, decode_of_some hfirst, hrest, List.map_cons]

end Decoder

end Tunnara
