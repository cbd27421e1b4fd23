import Mathlib.Data.List.Basic

/-!
# Frames with a length header

A frame is a header of a fixed width that states a length, followed by exactly
that many symbols.  Provided that the header can be decoded and that every
header of the right width encodes what it decodes to, reading a frame and
writing one are inverse to each other, and every other list of symbols is
rejected.
-/

namespace LengthFraming

variable {Symbol : Type*}

/-- A header of `width` symbols for the lengths below `limit`. -/
structure Header (Symbol : Type*) where
  width : Nat
  limit : Nat
  encode : Nat → List Symbol
  decode : List Symbol → Nat
  length_encode : ∀ length, (encode length).length = width
  decode_encode : ∀ {length}, length < limit → decode (encode length) = length
  decode_lt : ∀ {symbols}, symbols.length = width → decode symbols < limit
  encode_decode : ∀ {symbols}, symbols.length = width → encode (decode symbols) = symbols

namespace Header

variable (header : Header Symbol)

/-- Put the length in front of a payload that is not too long. -/
def frame (payload : List Symbol) : Option (List Symbol) :=
  if payload.length < header.limit then some (header.encode payload.length ++ payload)
  else none

/-- The payload of a frame whose header states its length. -/
def unframe (symbols : List Symbol) : Option (List Symbol) :=
  if header.width ≤ symbols.length ∧
      header.decode (symbols.take header.width) = symbols.length - header.width then
    some (symbols.drop header.width)
  else none

variable {header} {payload symbols : List Symbol}

theorem unframe_of_frame (framed : header.frame payload = some symbols) :
    header.unframe symbols = some payload := by
  obtain ⟨short, ⟨⟩⟩ := Option.ite_none_right_eq_some.mp framed
  have width := header.length_encode payload.length
  have taken : (header.encode payload.length ++ payload).take header.width =
      header.encode payload.length := by
    rw [← width, List.take_left]
  have dropped : (header.encode payload.length ++ payload).drop header.width = payload := by
    rw [← width, List.drop_left]
  have total : (header.encode payload.length ++ payload).length =
      header.width + payload.length := by
    rw [List.length_append, width]
  have stated : header.decode (header.encode payload.length) = payload.length :=
    header.decode_encode short
  unfold unframe
  rw [taken, dropped, total, stated, if_pos]
  omega

theorem frame_of_unframe (unframed : header.unframe symbols = some payload) :
    header.frame payload = some symbols := by
  obtain ⟨⟨long, stated⟩, ⟨⟩⟩ := Option.ite_none_right_eq_some.mp unframed
  have width : (symbols.take header.width).length = header.width := by
    rw [List.length_take]
    omega
  have rest : (symbols.drop header.width).length =
      header.decode (symbols.take header.width) := by
    rw [List.length_drop, stated]
  unfold frame
  rw [rest, if_pos (header.decode_lt width), header.encode_decode width,
    List.take_append_drop]

/-- Reading frames is inverse to writing them. -/
theorem unframe_eq_some_iff :
    header.unframe symbols = some payload ↔ header.frame payload = some symbols :=
  ⟨frame_of_unframe, unframe_of_frame⟩

end Header

end LengthFraming
