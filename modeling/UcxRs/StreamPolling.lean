import UcxRs.StatusPointers

/-!
# Polling for streams

A stream poll returns a signed count: the number of entries that UCX wrote, or a
negative status.  `Worker::stream_poll` decodes a negative count by its low 32
bits, without the check of the error range that the other users of the decoder
make first.  A count below `-2 ^ 32` can therefore decode to a status that it
does not have, and this is the only way in which a poll is not faithful.
-/

namespace UcxRs

/-- `StreamPollEvent`. -/
structure StreamPollEvent where
  ep : EpHandle
  userData : Word
  flags : BitVec 32
  deriving DecidableEq, Repr

namespace StreamPollEvent

def ofEntry (entry : UcpStreamPollEp) : StreamPollEvent :=
  ⟨entry.ep, entry.userData, entry.flags⟩

end StreamPollEvent

/-- `Worker::stream_poll` of a release build, where the array can be allocated.
UCX writes over some of its zeroed entries. -/
def Worker.streamPoll (worker : Worker) (maxEps : Nat) :
    Ffi (Except Status (List StreamPollEvent)) := do
  let (count, written) ← perform (.ucpStreamWorkerPoll worker.handle maxEps 0)
  let pollEps := (List.replicate maxEps UcpStreamPollEp.zeroed).mapIdx fun index zeroed =>
    (written index).getD zeroed
  if count.slt 0 then pure (.error (statusFromPtr count))
  else pure (.ok ((pollEps.take (min count.toNat maxEps)).map StreamPollEvent.ofEntry))

namespace StreamPolling

open Interaction (Environment Execution)
open Interaction.Program

def pollAnswer (count : BitVec 64) (written : Nat → Option UcpStreamPollEp) :
    Environment Call Answer :=
  fun _ call =>
    match call with
    | .ucpStreamWorkerPoll _ _ _ => some (count, written)
    | _ => none

/-- An entry of the array after the call. -/
def entryAfter (written : Nat → Option UcpStreamPollEp) (index : Nat) : UcpStreamPollEp :=
  (written index).getD .zeroed

/-- A poll is decoded faithfully: a negative count is the error of exactly that
value, or the last error where none is declared, and another count is the number
of the entries that are returned. -/
structure PollsFaithfully (worker : Worker) (maxEps : Nat) (count : BitVec 64)
    (written : Nat → Option UcpStreamPollEp)
    (execution : Execution Call (Except Status (List StreamPollEvent))) : Prop where
  polls : execution.calls = [.ucpStreamWorkerPoll worker.handle maxEps 0]
  declared : count.toInt < 0 → ∀ status : UcsStatus, status.discriminant = count.toInt →
    execution.result = some (.error status)
  undeclared : count.toInt < 0 → (∀ status : UcsStatus, status.discriminant ≠ count.toInt) →
    execution.result = some (.error .errLast)
  entries : 0 ≤ count.toInt → execution.result = some (.ok
    ((List.range (min count.toNat maxEps)).map fun index =>
      StreamPollEvent.ofEntry (entryAfter written index)))
  onlyWritten : 0 ≤ count.toInt → count.toNat ≤ maxEps →
    ∀ filled : List UcpStreamPollEp, filled.length = count.toNat →
      (∀ index, index < count.toNat → written index = filled[index]?) →
      execution.result = some (.ok (filled.map StreamPollEvent.ofEntry))

/-- The count lies below `-2 ^ 32` and is congruent to a declared error other than
the last one modulo `2 ^ 32`. -/
def WrapsToError (count : BitVec 64) : Prop :=
  count.toInt < -2 ^ 32 ∧ ∃ status : UcsStatus, status.isErr = true ∧ status ≠ .errLast ∧
    (2 ^ 32 : Int) ∣ count.toInt - status.discriminant

theorem discriminant_bounds (status : UcsStatus) :
    -100 ≤ status.discriminant ∧ status.discriminant ≤ 1 := by
  cases status <;> decide

theorem isErr_iff (status : UcsStatus) : status.isErr = true ↔ status.discriminant < 0 := by
  cases status <;> decide

/-- Truncation keeps a count modulo `2 ^ 32`. -/
theorem dvd_sub_low_half (count : BitVec 64) :
    (2 ^ 32 : Int) ∣ count.toInt - (count.setWidth 32).toInt := by
  have bound := count.isLt
  rw [BitVec.toInt_eq_toNat_cond, BitVec.toInt_eq_toNat_cond, BitVec.toNat_setWidth]
  split <;> split <;> omega

theorem low_half_bounds (count : BitVec 64) :
    -2 ^ 31 ≤ (count.setWidth 32).toInt ∧ (count.setWidth 32).toInt < 2 ^ 31 :=
  ⟨BitVec.le_toInt _, BitVec.toInt_lt⟩

/-- The decoder reads nothing but the low half. -/
theorem statusFromPtr_of_low_half {count : BitVec 64} {status : UcsStatus}
    (isErr : status.isErr = true) (low : (count.setWidth 32).toInt = status.discriminant) :
    statusFromPtr count = status := by
  have ownLow : ((statusWord status).setWidth 32).toInt = status.discriminant := by
    cases status <;> decide
  unfold statusFromPtr
  rw [low, ← ownLow]
  exact statusFromPtr_statusWord isErr

theorem statusFromPtr_isErr (word : Word) : (statusFromPtr word).isErr = true := by
  unfold statusFromPtr
  split <;> rfl

theorem wrapsToError_iff {count : BitVec 64} (negative : count.toInt < 0) :
    WrapsToError count ↔ ∃ status : UcsStatus, status.isErr = true ∧ status ≠ .errLast ∧
      (count.setWidth 32).toInt = status.discriminant ∧ count.toInt ≠ status.discriminant := by
  have truncated := dvd_sub_low_half count
  have lowBounds := low_half_bounds count
  constructor
  · rintro ⟨below, status, isErr, notLast, congruent⟩
    have bounds := discriminant_bounds status
    refine ⟨status, isErr, notLast, ?_, ?_⟩
    · omega
    · omega
  · rintro ⟨status, isErr, notLast, low, differs⟩
    have valueNegative := (isErr_iff status).mp isErr
    rw [low] at truncated
    have below : count.toInt < -2 ^ 32 := by omega
    exact ⟨below, status, isErr, notLast, truncated⟩

section Poll

variable {worker : Worker} {maxEps : Nat} {count : BitVec 64}
  {written : Nat → Option UcpStreamPollEp}

/-- The array that UCX wrote to. -/
theorem mapIdx_zeroed (maxEps : Nat) (written : Nat → Option UcpStreamPollEp) :
    ((List.replicate maxEps UcpStreamPollEp.zeroed).mapIdx fun index zeroed =>
      (written index).getD zeroed) = (List.range maxEps).map (entryAfter written) := by
  apply List.ext_getElem
  · simp
  · intro index within _
    simp [entryAfter]

theorem execute_streamPoll :
    (worker.streamPoll maxEps).execute (pollAnswer count written) [] =
      ⟨some (if count.slt 0 then .error (statusFromPtr count)
        else .ok ((List.range (min count.toNat maxEps)).map fun index =>
          StreamPollEvent.ofEntry (entryAfter written index))),
        [.ucpStreamWorkerPoll worker.handle maxEps 0]⟩ := by
  have prefixes : (((List.range maxEps).map (entryAfter written)).take
      (min count.toNat maxEps)).map StreamPollEvent.ofEntry =
        (List.range (min count.toNat maxEps)).map fun index =>
          StreamPollEvent.ofEntry (entryAfter written index) := by
    rw [← List.map_take, List.take_range, List.map_map, Nat.min_assoc, Nat.min_self]
    rfl
  unfold Worker.streamPoll
  rw [call_bind, execute_issue_some (show pollAnswer count written [] _ = some _ from rfl)]
  simp only [mapIdx_zeroed, prefixes]
  cases count.slt 0 <;> rfl

/-- When UCX wrote as many entries as it counts, they are what a poll returns. -/
theorem entries_eq_filled {filled : List UcpStreamPollEp} (length : filled.length = count.toNat)
    (writes : ∀ index, index < count.toNat → written index = filled[index]?) :
    ((List.range count.toNat).map fun index =>
      StreamPollEvent.ofEntry (entryAfter written index)) =
        filled.map StreamPollEvent.ofEntry := by
  apply List.ext_getElem
  · simp [length]
  · intro index within _
    have inRange : index < count.toNat := by simpa using within
    have inFilled : index < filled.length := by omega
    have entry : entryAfter written index = filled[index] := by
      rw [entryAfter, writes index inRange, List.getElem?_eq_getElem inFilled, Option.getD_some]
    simp [entry]

theorem pollsFaithfully_of_nonnegative (nonnegative : 0 ≤ count.toInt) :
    PollsFaithfully worker maxEps count written
      ((worker.streamPoll maxEps).execute (pollAnswer count written) []) := by
  have positive : count.slt 0 = false := by
    rw [BitVec.slt_eq_decide, decide_eq_false_iff_not]
    exact Int.not_lt.mpr nonnegative
  rw [execute_streamPoll, positive]
  constructor
  case polls => rfl
  case declared => exact fun negative => absurd negative (Int.not_lt.mpr nonnegative)
  case undeclared => exact fun negative => absurd negative (Int.not_lt.mpr nonnegative)
  case entries => exact fun _ => rfl
  case onlyWritten =>
    intro _ fits filled length writes
    have returned := entries_eq_filled length writes
    rw [Nat.min_eq_left fits, ← returned]
    rfl

/-- A negative count is faithful exactly when its low half is not mistaken for an
error. -/
theorem pollsFaithfully_iff_of_negative (negative : count.toInt < 0) :
    PollsFaithfully worker maxEps count written
      ((worker.streamPoll maxEps).execute (pollAnswer count written) []) ↔
        ¬ WrapsToError count := by
  have isNegative : count.slt 0 = true := by
    rw [BitVec.slt_eq_decide, decide_eq_true_iff]
    exact negative
  rw [execute_streamPoll, isNegative, wrapsToError_iff negative]
  constructor
  · rintro faithful ⟨status, isErr, notLast, low, differs⟩
    have decoded := statusFromPtr_of_low_half isErr low
    by_cases declared : ∃ other : UcsStatus, other.discriminant = count.toInt
    · obtain ⟨other, value⟩ := declared
      have result := faithful.declared negative other value
      have same : statusFromPtr count = other := by simpa using result
      rw [decoded] at same
      exact differs (value.symm.trans (by rw [same]))
    · have result := faithful.undeclared negative fun other value => declared ⟨other, value⟩
      have last : statusFromPtr count = .errLast := by simpa using result
      exact notLast (decoded.symm.trans last)
  · intro unmistaken
    constructor
    case polls => rfl
    case declared =>
      intro _ status value
      have isErr : status.isErr = true := (isErr_iff status).mpr (by omega)
      have bounds := discriminant_bounds status
      have lowBounds := low_half_bounds count
      have truncated := dvd_sub_low_half count
      have low : (count.setWidth 32).toInt = status.discriminant := by omega
      rw [statusFromPtr_of_low_half isErr low]
      rfl
    case undeclared =>
      intro _ undeclared
      have last : statusFromPtr count = .errLast := by
        by_contra notLast
        have low := (StatusPointers.statusFromPtr_cases count).resolve_left notLast
        exact unmistaken ⟨statusFromPtr count, statusFromPtr_isErr count, notLast, low.symm,
          (undeclared _).symm⟩
      rw [last]
      rfl
    case entries => exact fun nonnegative => absurd negative (Int.not_lt.mpr nonnegative)
    case onlyWritten => exact fun nonnegative => absurd negative (Int.not_lt.mpr nonnegative)

end Poll

/-- A poll is faithful exactly for the counts that do not wrap to an error. -/
theorem poll_faithful_iff (worker : Worker) (maxEps : Nat) (count : BitVec 64)
    (written : Nat → Option UcpStreamPollEp) :
    PollsFaithfully worker maxEps count written
      ((worker.streamPoll maxEps).execute (pollAnswer count written) []) ↔
        ¬ WrapsToError count := by
  by_cases negative : count.toInt < 0
  · exact pollsFaithfully_iff_of_negative negative
  · have nonnegative : 0 ≤ count.toInt := Int.not_lt.mp negative
    refine iff_of_true (pollsFaithfully_of_nonnegative nonnegative) ?_
    rintro ⟨below, _⟩
    omega

/-- `-2 ^ 32 - 1` is no declared status, and decodes to `UCS_ERR_NO_MESSAGE`. -/
theorem wrapped_count_misread :
    ¬ PollsFaithfully ⟨⟨0x1000⟩, ⟨0⟩⟩ 1 (BitVec.ofInt 64 (-2 ^ 32 - 1)) (fun _ => none)
      ((Worker.streamPoll ⟨⟨0x1000⟩, ⟨0⟩⟩ 1).execute
        (pollAnswer (BitVec.ofInt 64 (-2 ^ 32 - 1)) fun _ => none) []) := by
  have wraps : WrapsToError (BitVec.ofInt 64 (-2 ^ 32 - 1)) :=
    ⟨by decide, .errNoMessage, by decide, by decide, by decide⟩
  have faithful := @pollsFaithfully_iff_of_negative ⟨⟨0x1000⟩, ⟨0⟩⟩ 1
    (BitVec.ofInt 64 (-2 ^ 32 - 1)) (fun _ => none) (by decide)
  exact fun polls => faithful.mp polls wraps

end StreamPolling

end UcxRs
