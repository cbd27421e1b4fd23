import UcxRs.AtomicOperations
import UcxRs.LengthFraming

/-!
# The wire format of remote keys

`frame_rkey_payload` writes the length of the payload as four little-endian
bytes and the payload after them; `unframe_rkey_payload` is its inverse and
rejects every other byte string.  The reader slices its buffer twice and
subtracts the width of the header from its length; all of it is within bounds
because the length was checked first.
-/

namespace UcxRs

/-- `u32::from_le_bytes`. -/
def u32FromLeBytes (byte0 byte1 byte2 byte3 : BitVec 8) : BitVec 32 :=
  byte3 ++ byte2 ++ byte1 ++ byte0

theorem memoryBytes_u32 (word : BitVec 32) :
    memoryBytes word =
      [word.extractLsb' 0 8, word.extractLsb' 8 8, word.extractLsb' 16 8,
        word.extractLsb' 24 8] :=
  rfl

theorem u32FromLeBytes_extract (word : BitVec 32) :
    u32FromLeBytes (word.extractLsb' 0 8) (word.extractLsb' 8 8) (word.extractLsb' 16 8)
      (word.extractLsb' 24 8) = word := by
  unfold u32FromLeBytes
  have upper := @BitVec.extractLsb'_append_extractLsb'_eq_extractLsb' 32 24 16 8 8 word rfl
  have middle := @BitVec.extractLsb'_append_extractLsb'_eq_extractLsb' 32 16 8 8 16 word rfl
  have whole := @BitVec.extractLsb'_append_extractLsb'_eq_extractLsb' 32 8 0 8 24 word rfl
  rw [upper, middle, whole]
  exact BitVec.extractLsb'_eq_self

theorem memoryBytes_u32FromLeBytes (byte0 byte1 byte2 byte3 : BitVec 8) :
    memoryBytes (u32FromLeBytes byte0 byte1 byte2 byte3) = [byte0, byte1, byte2, byte3] := by
  rw [memoryBytes_u32]
  unfold u32FromLeBytes
  congr 1
  · exact BitVec.extractLsb'_append_eq_right
  congr 1
  · rw [BitVec.extractLsb'_append_eq_of_le (by decide)]
    exact BitVec.extractLsb'_append_eq_right
  congr 1
  · rw [BitVec.extractLsb'_append_eq_of_le (by decide),
      BitVec.extractLsb'_append_eq_of_le (by decide)]
    exact BitVec.extractLsb'_append_eq_right
  congr 1
  · rw [BitVec.extractLsb'_append_eq_of_le (by decide),
      BitVec.extractLsb'_append_eq_of_le (by decide)]
    exact BitVec.extractLsb'_append_eq_left

/-- A list of four symbols. -/
theorem length_eq_four {Symbol : Type*} {symbols : List Symbol} (four : symbols.length = 4) :
    ∃ first second third fourth, symbols = [first, second, third, fourth] := by
  match symbols, four with
  | [first, second, third, fourth], _ => exact ⟨first, second, third, fourth, rfl⟩

/-- The header of a framed payload. -/
def lengthHeader : LengthFraming.Header (BitVec 8) where
  width := 4
  limit := 2 ^ 32
  encode length := memoryBytes (BitVec.ofNat 32 length)
  decode
    | [byte0, byte1, byte2, byte3] => (u32FromLeBytes byte0 byte1 byte2 byte3).toNat
    | _ => 0
  length_encode _ := rfl
  decode_encode := by
    intro length short
    rw [memoryBytes_u32]
    simp only [u32FromLeBytes_extract, BitVec.toNat_ofNat, Nat.mod_eq_of_lt short]
  decode_lt := by
    intro symbols four
    obtain ⟨byte0, byte1, byte2, byte3, rfl⟩ := length_eq_four four
    exact (u32FromLeBytes byte0 byte1 byte2 byte3).isLt
  encode_decode := by
    intro symbols four
    obtain ⟨byte0, byte1, byte2, byte3, rfl⟩ := length_eq_four four
    simp only [BitVec.ofNat_toNat, BitVec.setWidth_eq, memoryBytes_u32FromLeBytes]

/-- `frame_rkey_payload`. -/
def frameRkeyPayload (payload : List (BitVec 8)) : Except Status (List (BitVec 8)) :=
  if payload.length < 2 ^ 32 then
    let payloadLen := BitVec.ofNat 32 payload.length
    .ok (memoryBytes payloadLen ++ payload)
  else .error .errOutOfRange

/-- `&buffer[..stop]`; `none` is the panic of a slice that is too short. -/
def sliceTo {Symbol : Type} (buffer : List Symbol) (stop : Nat) : Option (List Symbol) :=
  if stop ≤ buffer.length then some (buffer.take stop) else none

/-- `&buffer[start..]`. -/
def sliceFrom {Symbol : Type} (buffer : List Symbol) (start : Nat) : Option (List Symbol) :=
  if start ≤ buffer.length then some (buffer.drop start) else none

/-- A subtraction of `usize`; `none` is its overflow. -/
def usizeSub (left right : Nat) : Option Nat :=
  if right ≤ left then some (left - right) else none

/-- `u32::from_le_bytes(bytes.try_into().unwrap())`. -/
def u32FromLeSlice : List (BitVec 8) → Option (BitVec 32)
  | [byte0, byte1, byte2, byte3] => some (u32FromLeBytes byte0 byte1 byte2 byte3)
  | _ => none

/-- `unframe_rkey_payload` operation by operation; `none` is a panic. -/
def unframeRkeyPayloadChecked (buffer : List (BitVec 8)) :
    Option (Except Status (List (BitVec 8))) :=
  if buffer.length < 4 then some (.error .errInvalidParam)
  else do
    let header ← sliceTo buffer 4
    let payloadLen ← u32FromLeSlice header
    let rest ← usizeSub buffer.length 4
    if payloadLen.toNat ≠ rest then some (.error .errInvalidParam)
    else do
      let payload ← sliceFrom buffer 4
      some (.ok payload)

/-- No operation of the reader panics. -/
theorem unframeRkeyPayloadChecked_eq (buffer : List (BitVec 8)) :
    unframeRkeyPayloadChecked buffer = some (unframeRkeyPayload buffer) := by
  match buffer with
  | [] => rfl
  | [_] => rfl
  | [_, _] => rfl
  | [_, _, _] => rfl
  | byte0 :: byte1 :: byte2 :: byte3 :: payload =>
      have long : ¬ (byte0 :: byte1 :: byte2 :: byte3 :: payload).length < 4 := by
        simp only [List.length_cons]
        omega
      unfold unframeRkeyPayloadChecked
      rw [if_neg long]
      simp [sliceTo, sliceFrom, usizeSub, u32FromLeSlice, u32FromLeBytes, unframeRkeyPayload]
      split <;> rfl

/-- The reader is the one of the length header. -/
theorem unframeRkeyPayload_eq (buffer : List (BitVec 8)) :
    unframeRkeyPayload buffer =
      match lengthHeader.unframe buffer with
      | some payload => .ok payload
      | none => .error .errInvalidParam := by
  match buffer with
  | [] => rfl
  | [_] => rfl
  | [_, _] => rfl
  | [_, _, _] => rfl
  | byte0 :: byte1 :: byte2 :: byte3 :: payload =>
      have unframed : lengthHeader.unframe (byte0 :: byte1 :: byte2 :: byte3 :: payload) =
          if (u32FromLeBytes byte0 byte1 byte2 byte3).toNat = payload.length then some payload
          else none := by
        unfold LengthFraming.Header.unframe lengthHeader
        simp
      rw [unframed]
      by_cases stated : (u32FromLeBytes byte0 byte1 byte2 byte3).toNat = payload.length
      · rw [if_pos stated]
        exact if_neg (not_not_intro stated)
      · rw [if_neg stated]
        exact if_pos stated

theorem frameRkeyPayload_eq (payload : List (BitVec 8)) :
    frameRkeyPayload payload =
      match lengthHeader.frame payload with
      | some framed => .ok framed
      | none => .error .errOutOfRange := by
  unfold frameRkeyPayload LengthFraming.Header.frame
  by_cases short : payload.length < 2 ^ 32
  · rw [if_pos short, if_pos (show payload.length < lengthHeader.limit from short)]
    rfl
  · rw [if_neg short, if_neg (show ¬ payload.length < lengthHeader.limit from short)]

theorem frameRkeyPayload_eq_ok_iff {payload framed : List (BitVec 8)} :
    frameRkeyPayload payload = .ok framed ↔ lengthHeader.frame payload = some framed := by
  rw [frameRkeyPayload_eq]
  cases lengthHeader.frame payload <;> simp

theorem unframeRkeyPayload_eq_ok_iff {buffer payload : List (BitVec 8)} :
    unframeRkeyPayload buffer = .ok payload ↔ lengthHeader.unframe buffer = some payload := by
  rw [unframeRkeyPayload_eq]
  cases lengthHeader.unframe buffer <;> simp

theorem unframeRkeyPayload_eq_error_iff (buffer : List (BitVec 8)) :
    unframeRkeyPayload buffer = .error .errInvalidParam ↔
      lengthHeader.unframe buffer = none := by
  rw [unframeRkeyPayload_eq]
  cases lengthHeader.unframe buffer <;> simp

/-- Framing succeeds on the payloads whose length fits its header, and the
reader accepts exactly the frames, each with its payload; it rejects every
other byte string, and no operation of it panics. -/
theorem rkey_framing_bijective (payload buffer : List (BitVec 8)) :
    ((∃ framed, frameRkeyPayload payload = .ok framed) ↔ payload.length < 2 ^ 32) ∧
    (frameRkeyPayload payload = .error .errOutOfRange ↔ 2 ^ 32 ≤ payload.length) ∧
    (unframeRkeyPayload buffer = .ok payload ↔ frameRkeyPayload payload = .ok buffer) ∧
    (unframeRkeyPayload buffer = .error .errInvalidParam ↔
      ∀ other, frameRkeyPayload other ≠ .ok buffer) ∧
    unframeRkeyPayloadChecked buffer = some (unframeRkeyPayload buffer) := by
  refine ⟨⟨?_, fun short => ⟨_, if_pos short⟩⟩, ⟨?_, fun long => ?_⟩, ?_, ?_,
    unframeRkeyPayloadChecked_eq buffer⟩
  · rintro ⟨framed, framedEq⟩
    by_contra long
    cases (if_neg long).symm.trans framedEq
  · intro rejected
    by_contra short
    cases (if_pos (Nat.lt_of_not_le short)).symm.trans rejected
  · exact if_neg (Nat.not_lt_of_le long)
  · rw [unframeRkeyPayload_eq_ok_iff, frameRkeyPayload_eq_ok_iff]
    exact LengthFraming.Header.unframe_eq_some_iff
  · rw [unframeRkeyPayload_eq_error_iff, Option.eq_none_iff_forall_ne_some]
    refine forall_congr' fun other => not_congr ?_
    rw [frameRkeyPayload_eq_ok_iff]
    exact LengthFraming.Header.unframe_eq_some_iff

end UcxRs
