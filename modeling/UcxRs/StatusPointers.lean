import UcxRs.PostingOperations

/-!
# The words of status pointers

A status pointer is an error when it lies in the last hundred words of the
address space, an operation that completed at once when it is null, and a
pointer otherwise.  The low half of an error word decodes to the declared
status of that value, and to the last error where there is none.  The two
stream operations that classify a pointer by themselves agree with
`status_ptr_to_result` on every word but the one that UCX never returns.
-/

namespace UcxRs

namespace StatusPointers

open Interaction (Environment)
open Interaction.Program

theorem statusPtrIsErr_iff (word : Word) :
    statusPtrIsErr word = true ↔ 2 ^ 64 - 100 ≤ word.toNat := by
  unfold statusPtrIsErr
  rw [decide_eq_true_iff, BitVec.le_def]
  exact Iff.rfl

/-- An error word is the sign extension of its low half. -/
theorem ofInt_low_half {word : Word} (high : 2 ^ 64 - 100 ≤ word.toNat) :
    BitVec.ofInt 64 (word.setWidth 32).toInt = word := by
  have bound := word.isLt
  have low : (word.setWidth 32).toInt = (word.toNat : Int) - 2 ^ 64 := by
    rw [BitVec.toInt_eq_toNat_cond, BitVec.toNat_setWidth]
    split <;> omega
  apply BitVec.eq_of_toNat_eq
  rw [low, BitVec.toNat_ofInt]
  omega

/-- What the table decodes has the value of the low half, if the table has it. -/
theorem statusFromPtr_cases (word : Word) :
    statusFromPtr word = .errLast ∨
      (statusFromPtr word).discriminant = (word.setWidth 32).toInt := by
  unfold statusFromPtr
  split
  all_goals first
    | exact Or.inl rfl
    | rename_i value
      exact Or.inr value.symm

/-- An error word decodes to the status declared for it, or to the last error. -/
theorem statusFromPtr_of_isErr {word : Word} (isErr : statusPtrIsErr word = true) :
    statusWord (statusFromPtr word) = word ∨
      statusFromPtr word = .errLast ∧ ∀ status, statusWord status ≠ word := by
  by_cases declared : ∃ status, statusWord status = word
  · obtain ⟨status, rfl⟩ := declared
    rw [statusPtrIsErr_statusWord] at isErr
    exact Or.inl (congrArg statusWord (statusFromPtr_statusWord isErr))
  · have undeclared : ∀ status, statusWord status ≠ word :=
      fun status same => declared ⟨status, same⟩
    rcases statusFromPtr_cases word with last | value
    · exact Or.inr ⟨last, undeclared⟩
    · have same : statusWord (statusFromPtr word) = word := by
        unfold statusWord
        rw [value]
        exact ofInt_low_half ((statusPtrIsErr_iff word).mp isErr)
      exact absurd same (undeclared _)

/-- How a word other than `UCS_INPROGRESS` is classified. -/
theorem statusPtrToResult_of_ne {word : Word} (notInProgress : word ≠ 1) :
    statusPtrToResult word =
      if null : word = 0 then .ok none
      else if statusPtrIsErr word then .error (statusFromPtr word)
      else .ok (some ⟨some ⟨word, null⟩⟩) := by
  unfold statusPtrToResult
  by_cases null : word = 0
  · rw [dif_pos null, null]
    rfl
  · rw [dif_neg null]
    cases isErr : statusPtrIsErr word with
    | true => rfl
    | false =>
        have large : ¬ word ≤ statusWord .inProgress := by
          rw [BitVec.le_def]
          rw [ne_eq, ← BitVec.toNat_inj] at notInProgress
          rw [← BitVec.toNat_inj] at null
          change ¬ word.toNat = 0 at null
          change ¬ word.toNat = 1 at notInProgress
          change ¬ word.toNat ≤ 1
          omega
        rw [if_neg Bool.false_ne_true, if_neg large, if_neg Bool.false_ne_true]
        unfold Request.new NonNull.new
        rw [dif_pos null]
        rfl

/-- An outcome that has no data, an error or the data behind the word exactly
when `status_ptr_to_result` has no request, that error or the request. -/
structure ClassifiesLike (word : Word) {Data : Type}
    (outcome : Except Status (Option Data)) (pointer : Data → Word) : Prop where
  absent : outcome = .ok none ↔ statusPtrToResult word = .ok none
  failed : ∀ error, outcome = .error error ↔ statusPtrToResult word = .error error
  present : (∃ data, outcome = .ok (some data) ∧ pointer data = word) ↔
    ∃ request, statusPtrToResult word = .ok (some request) ∧ request.asPtr = word

/-- The classification that the stream operations write out. -/
theorem classifiesLike_of_eq {word : Word} (notInProgress : word ≠ 1) {Data : Type}
    {outcome : Except Status (Option Data)} {pointer : Data → Word}
    (data : word ≠ 0 → Data) (points : ∀ null, pointer (data null) = word)
    (outcomeEq : outcome =
      if null : word = 0 then .ok none
      else if requestStatusPtrIsErr word then .error (statusFromPtr word)
      else .ok (some (data null))) :
    ClassifiesLike word outcome pointer := by
  have copies : requestStatusPtrIsErr word = statusPtrIsErr word := rfl
  have decoded := statusPtrToResult_of_ne notInProgress
  rw [copies] at outcomeEq
  by_cases null : word = 0
  · rw [dif_pos null] at outcomeEq decoded
    constructor <;> simp [outcomeEq, decoded]
  · rw [dif_neg null] at outcomeEq decoded
    cases isErr : statusPtrIsErr word with
    | true =>
        rw [isErr, if_pos rfl] at outcomeEq decoded
        constructor <;> simp [outcomeEq, decoded]
    | false =>
        rw [isErr, if_neg Bool.false_ne_true] at outcomeEq decoded
        constructor <;> simp [outcomeEq, decoded, points null, Request.asPtr]

/-- UCX answers the stream call with a word, and nothing else. -/
def streamAnswer (word : Word) (written : Option Nat) : Environment Call Answer :=
  fun _ call =>
    match call with
    | .ucpStreamRecvDataNb _ => some (word, written)
    | _ => none

theorem execute_streamRecvData (ep : Ep) (word : Word) (written : Option Nat) :
    (ep.streamRecvData.execute (streamAnswer word written) []).result = some (
      if null : word = 0 then .ok none
      else if requestStatusPtrIsErr word then .error (statusFromPtr word)
      else .ok (some ⟨ep.handle, ⟨word, null⟩, written.getD 0⟩)) := by
  unfold Ep.streamRecvData
  rw [call_bind, execute_issue_some (show streamAnswer word written [] _ = some _ from rfl)]
  by_cases null : word = 0
  · simp only [dif_pos null]
    rfl
  · simp only [dif_neg null]
    cases requestStatusPtrIsErr word <;> rfl

theorem execute_streamRecvDataNb (ep : Ep) (word : Word) (written : Option Nat) :
    ((streamRecvDataNb ep).execute (streamAnswer word written) []).result = some (
      if word = 0 then .ok none
      else if requestStatusPtrIsErr word then .error (statusFromPtr word)
      else .ok (some word)) := by
  unfold streamRecvDataNb
  rw [call_bind, execute_issue_some (show streamAnswer word written [] _ = some _ from rfl)]
  by_cases null : word = 0
  · simp only [if_pos null]
    rfl
  · simp only [if_neg null]
    cases requestStatusPtrIsErr word <;> rfl

/-- The three classes of words. -/
theorem statusPtrToResult_cases {word : Word} (notInProgress : word ≠ 1) :
    (word = 0 ∧ statusPtrToResult word = .ok none) ∨
    (2 ^ 64 - 100 ≤ word.toNat ∧ statusPtrToResult word = .error (statusFromPtr word)) ∨
    (word ≠ 0 ∧ word.toNat < 2 ^ 64 - 100 ∧
      ∃ request, statusPtrToResult word = .ok (some request) ∧ request.asPtr = word) := by
  rw [statusPtrToResult_of_ne notInProgress]
  by_cases null : word = 0
  · exact Or.inl ⟨null, dif_pos null⟩
  · rw [dif_neg null]
    cases isErr : statusPtrIsErr word with
    | true => exact Or.inr (Or.inl ⟨(statusPtrIsErr_iff word).mp isErr, rfl⟩)
    | false =>
        have low : ¬ 2 ^ 64 - 100 ≤ word.toNat := by
          rw [← statusPtrIsErr_iff, isErr]
          exact Bool.false_ne_true
        exact Or.inr (Or.inr ⟨null, Nat.lt_of_not_le low, _, rfl, rfl⟩)

/-- A declared status and its word are the same error, or neither is one. -/
theorem statusPtrToResult_statusWord_iff (status : UcsStatus) :
    statusPtrToResult (statusWord status) = .error status ↔
      statusToResult status = .error status := by
  unfold statusPtrToResult statusToResult
  rw [statusPtrIsErr_statusWord]
  cases isErr : status.isErr with
  | true => simp [statusFromPtr_statusWord isErr]
  | false =>
      rcases (UcsStatus.isErr_eq_false_iff status).mp isErr with rfl | rfl <;>
        simp [statusWord, UcsStatus.discriminant]

/-- Every word but `UCS_INPROGRESS` is classified exactly, and the two stream
operations classify it alike. -/
theorem status_pointer_classified {word : Word} (notInProgress : word ≠ 1) (ep : Ep)
    (written : Option Nat) :
    ((∃ error, statusPtrToResult word = .error error) ↔ 2 ^ 64 - 100 ≤ word.toNat) ∧
    (statusPtrToResult word = .ok none ↔ word = 0) ∧
    ((∃ request, statusPtrToResult word = .ok (some request) ∧ request.asPtr = word) ↔
      word ≠ 0 ∧ word.toNat < 2 ^ 64 - 100) ∧
    (∀ error, statusPtrToResult word = .error error →
      statusWord error = word ∨
        error = .errLast ∧ ∀ status, statusWord status ≠ word) ∧
    (∀ status, statusPtrToResult (statusWord status) = .error status ↔
      statusToResult status = .error status) ∧
    (∃ outcome, (ep.streamRecvData.execute (streamAnswer word written) []).result =
      some outcome ∧ ClassifiesLike word outcome fun data => data.data.val) ∧
    (∃ outcome, ((streamRecvDataNb ep).execute (streamAnswer word written) []).result =
      some outcome ∧ ClassifiesLike word outcome id) := by
  have dataClassified : ClassifiesLike word _ fun data : StreamData => data.data.val :=
    classifiesLike_of_eq notInProgress
      (fun null => ⟨ep.handle, ⟨word, null⟩, written.getD 0⟩) (fun _ => rfl) rfl
  have pointerClassified : ClassifiesLike word _ id :=
    classifiesLike_of_eq notInProgress (fun _ => word) (fun _ => rfl) rfl
  refine ⟨?_, ?_, ?_, ?_, statusPtrToResult_statusWord_iff,
    ⟨_, execute_streamRecvData ep word written, dataClassified⟩,
    ⟨_, execute_streamRecvDataNb ep word written, pointerClassified⟩⟩
  · rcases statusPtrToResult_cases notInProgress with
      ⟨rfl, decoded⟩ | ⟨high, decoded⟩ | ⟨_, low, request, decoded, _⟩
    · refine iff_of_false ?_ (by decide)
      rintro ⟨error, failed⟩
      cases decoded.symm.trans failed
    · exact iff_of_true ⟨_, decoded⟩ high
    · refine iff_of_false ?_ (Nat.not_le_of_lt low)
      rintro ⟨error, failed⟩
      cases decoded.symm.trans failed
  · rcases statusPtrToResult_cases notInProgress with
      ⟨null, decoded⟩ | ⟨high, decoded⟩ | ⟨nonNull, _, request, decoded, _⟩
    · exact iff_of_true decoded null
    · refine iff_of_false (fun absent => ?_) ?_
      · cases decoded.symm.trans absent
      · rintro rfl
        exact absurd high (by decide)
    · refine iff_of_false (fun absent => ?_) nonNull
      cases decoded.symm.trans absent
  · rcases statusPtrToResult_cases notInProgress with
      ⟨null, decoded⟩ | ⟨high, decoded⟩ | ⟨nonNull, low, found⟩
    · refine iff_of_false ?_ (fun present => present.1 null)
      rintro ⟨request, present, _⟩
      cases decoded.symm.trans present
    · refine iff_of_false ?_ (fun present => Nat.not_lt_of_le high present.2)
      rintro ⟨request, present, _⟩
      cases decoded.symm.trans present
    · exact iff_of_true found ⟨nonNull, low⟩
  · intro error decodedError
    rcases statusPtrToResult_cases notInProgress with
      ⟨_, decoded⟩ | ⟨high, decoded⟩ | ⟨_, _, request, decoded, _⟩
    · cases decoded.symm.trans decodedError
    · cases decoded.symm.trans decodedError
      exact statusFromPtr_of_isErr ((statusPtrIsErr_iff word).mpr high)
    · cases decoded.symm.trans decodedError

/-- A word between two declared errors is the last error. -/
theorem undeclared_word_classified :
    statusWord .errLast ≠ BitVec.ofInt 64 (-30) ∧
      ∃ error, statusPtrToResult (BitVec.ofInt 64 (-30)) = .error error := by
  refine ⟨by decide, ?_⟩
  have classified := @status_pointer_classified (BitVec.ofInt 64 (-30)) (by decide)
    ⟨⟨0x1000⟩, ⟨0⟩⟩ none
  exact classified.1.mpr (by decide)

end StatusPointers

end UcxRs
