import UcxRs.StatusPointers
import UcxRs.TimeoutReports
import UcxRs.WorkerWorld

/-!
# What the close of an endpoint reports and frees

UCX completes a close at once, rejects it at once, or hands out a request whose
status the wrapper then checks at most a million times.  This file runs
`Ep::close` against every such answer.  The calls, the result and the frees are
those of a correct close except when a check finds that the request failed: the
request is finished then, and `Ep::close` forgets it.
-/

namespace UcxRs

namespace EndpointClose

open GuardDisposal
open TimeoutReports (ClosePosted FirstFinal Returns UcxReportsTimeout awaitClose_eq_poll
  closing)
open WorkerWorld (ChildHandle passedHandles)
open Interaction (Environment Execution Program)
open Interaction.Program

/-- UCX answers the close with a status pointer and the wait that follows from
two sequences. -/
def closeAnswers (closePtr : Word) (checks : Nat → UcsStatus) (moved : Nat → Nat) :
    Environment Call Answer :=
  fun history call =>
    match call with
    | .ucpEpCloseNbx _ _ => some closePtr
    | call => waiting checks moved history call

variable {closePtr : Word} {checks : Nat → UcsStatus} {moved : Nat → Nat}
  {handle : NonNull} {worker : Worker} {ep : Ep} {flags : BitVec 32}

theorem serves_closeAnswers :
    Serves (closeAnswers closePtr checks moved) handle worker fun history =>
      checks (history.countP isCheck) :=
  ⟨fun _ => rfl, fun history => ⟨moved (history.countP isProgress), rfl⟩, fun _ => rfl⟩

/-- A check finds the close request finished. -/
def FoundFinished (closePtr : Word) (checks : Nat → UcsStatus)
    (found : UcsStatus → Prop) : Prop :=
  ClosePosted closePtr ∧ FirstFinal checks found

/-- The close was observed to succeed. -/
def ObservedSuccess (closePtr : Word) (checks : Nat → UcsStatus) : Prop :=
  closePtr = 0 ∨ FoundFinished closePtr checks (· = .ok)

/-- The close was observed to fail with a status. -/
def ObservedFailure (closePtr : Word) (checks : Nat → UcsStatus) (status : UcsStatus) :
    Prop :=
  (statusPtrIsErr closePtr = true ∧ statusFromPtr closePtr = status) ∨
    FoundFinished closePtr checks fun found => found = status ∧ found.isErr = true

/-- Every check of the wait finds the close request in progress. -/
def StaysPending (closePtr : Word) (checks : Nat → UcsStatus) : Prop :=
  ClosePosted closePtr ∧ ∀ index < 1000000, checks index = .inProgress

/-- Where a list of calls passes no endpoint to UCX. -/
def LeavesEndpoints (calls : List Call) : Prop :=
  ∀ call ∈ calls, ∀ passed, ChildHandle.ep passed ∉ passedHandles call

/-- A close that makes one call on its endpoint, reports what was observed, and
frees the request exactly if it was observed to finish. -/
structure ClosesCorrectly (ep : Ep) (closePtr : Word) (checks : Nat → UcsStatus)
    (execution : Execution Call (Except Status Unit)) : Prop where
  closesOnce : ∃ param later,
    execution.calls = .ucpEpCloseNbx ep.handle param :: later ∧ LeavesEndpoints later
  success : Returns (.ok ()) execution ↔ ObservedSuccess closePtr checks
  failure : ∀ status, ObservedFailure closePtr checks status →
    Returns (.error status) execution
  failureOnly : ∀ status, Returns (.error status) execution →
    ObservedFailure closePtr checks status ∨
      (status = .errTimedOut ∧ StaysPending closePtr checks ∧
        execution.calls.countP isCheck = 1000000)
  freed : ∀ request, execution.calls.count (.ucpRequestFree request) = 1 ↔
    closePtr = request.val ∧ FoundFinished closePtr checks fun _ => True
  freedOnce : ∀ request, execution.calls.count (.ucpRequestFree request) ≤ 1
  leaks : ∀ request : NonNull, closePtr = request.val → ClosePosted closePtr →
    .ucpRequestFree request ∉ execution.calls →
      Returns (.error .errTimedOut) execution ∧ StaysPending closePtr checks

/-- The one call that a close makes on its endpoint. -/
def closeCall (ep : Ep) (flags : BitVec 32) : Call :=
  .ucpEpCloseNbx ep.handle { UcpRequestParam.zeroed with flags := flags }

/-- The calls that follow a close pass no endpoint. -/
theorem leavesEndpoints_rounds (count : Nat) :
    LeavesEndpoints (repeatCalls (pendingRound handle worker) count) := by
  induction count with
  | zero => exact fun call member => absurd member List.not_mem_nil
  | succ count ih =>
      intro call member
      rw [repeatCalls_succ, List.mem_append] at member
      rcases member with now | later
      · simp only [pendingRound, List.mem_cons, List.not_mem_nil, or_false] at now
        rcases now with rfl | rfl <;> exact fun passed => List.not_mem_nil
      · exact ih call later

theorem LeavesEndpoints.append {first second : List Call} (left : LeavesEndpoints first)
    (right : LeavesEndpoints second) : LeavesEndpoints (first ++ second) := by
  intro call member
  rcases List.mem_append.mp member with early | late
  · exact left call early
  · exact right call late

theorem count_free_rounds (request : NonNull) (count : Nat) :
    (repeatCalls (pendingRound handle worker) count).count (.ucpRequestFree request) = 0 := by
  induction count with
  | zero => rfl
  | succ count ih =>
      rw [repeatCalls_succ, List.count_append, ih]
      simp [pendingRound]

/-- A close that UCX answers without a request. -/
theorem execute_close_answered {result : Except Status Unit}
    (answered : (∃ error, statusPtrToResult closePtr = .error error ∧ result = .error error) ∨
      (statusPtrToResult closePtr = .ok none ∧ result = .ok ())) :
    (ep.close worker flags).execute (closeAnswers closePtr checks moved) [] =
      ⟨some result, [closeCall ep flags]⟩ := by
  unfold Ep.close
  rw [call_bind, execute_issue_some rfl]
  rcases answered with ⟨error, failed, rfl⟩ | ⟨completed, rfl⟩
  · rw [failed]
    rfl
  · rw [completed]
    rfl

/-- A close that UCX answers with a request goes on with the wait. -/
theorem execute_close_posted (posted : statusPtrToResult closePtr = .ok (some ⟨some handle⟩)) :
    (ep.close worker flags).execute (closeAnswers closePtr checks moved) [] =
      ((forRounds (pollRound handle worker (closing handle)) (pure (.error .errTimedOut))
        1000000).execute (closeAnswers closePtr checks moved) [closeCall ep flags]).after
          [closeCall ep flags] := by
  unfold Ep.close
  rw [call_bind, execute_issue_some rfl, posted]
  simp only [awaitClose_eq_poll]
  rfl

/-- The close call and the rounds after it count as many checks as rounds. -/
theorem countP_isCheck_close_rounds (count : Nat) :
    ([closeCall ep flags] ++ repeatCalls (pendingRound handle worker) count).countP isCheck =
      count := by
  rw [List.countP_append, countP_rounds]
  exact Nat.zero_add count

/-- The first final check ends the wait; only a success frees the request. -/
theorem execute_close_of_final {count : Nat}
    (posted : statusPtrToResult closePtr = .ok (some ⟨some handle⟩)) (within : count < 1000000)
    (pending : ∀ index < count, checks index = .inProgress)
    (final : checks count ≠ .inProgress) :
    (ep.close worker flags).execute (closeAnswers closePtr checks moved) [] =
      ⟨some (statusToResult (checks count)),
        closeCall ep flags :: (repeatCalls (pendingRound handle worker) count ++
          .ucpRequestCheckStatus handle ::
            if (checks count).isErr then [] else [.ucpRequestFree handle])⟩ := by
  have serves := @serves_closeAnswers closePtr checks moved handle worker
  have answered : ∀ index, checks (([closeCall ep flags] ++
      repeatCalls (pendingRound handle worker) index).countP isCheck) = checks index :=
    fun index => congrArg checks (countP_isCheck_close_rounds index)
  have settles : (closing handle ((statusToResult (checks count)).map fun _ => true)).execute
      (closeAnswers closePtr checks moved)
      ([closeCall ep flags] ++ repeatCalls (pendingRound handle worker) count ++
        [.ucpRequestCheckStatus handle]) =
      ⟨some (some (statusToResult (checks count))),
        if (checks count).isErr then [] else [.ucpRequestFree handle]⟩ := by
    unfold statusToResult
    cases isErr : (checks count).isErr with
    | true => rfl
    | false => exact execute_bind_some serves.execute_free _
  rw [execute_close_posted posted, serves.execute_poll_of_final within
    (fun index bound => (answered index).trans (pending index bound))
    (by simpa only [answered] using final) (by simpa only [answered] using settles)]
  rfl

/-- A request that stays in progress is forgotten after a million rounds. -/
theorem execute_close_of_pending
    (posted : statusPtrToResult closePtr = .ok (some ⟨some handle⟩))
    (pending : ∀ index < 1000000, checks index = .inProgress) :
    (ep.close worker flags).execute (closeAnswers closePtr checks moved) [] =
      ⟨some (.error .errTimedOut),
        closeCall ep flags :: repeatCalls (pendingRound handle worker) 1000000⟩ := by
  have serves := @serves_closeAnswers closePtr checks moved handle worker
  have answered : ∀ index, checks (([closeCall ep flags] ++
      repeatCalls (pendingRound handle worker) index).countP isCheck) = checks index :=
    fun index => congrArg checks (countP_isCheck_close_rounds index)
  rw [execute_close_posted posted, serves.execute_poll_of_pending fun index bound =>
    (answered index).trans (pending index bound)]
  simp [Execution.after]

theorem posted_facts (posted : statusPtrToResult closePtr = .ok (some ⟨some handle⟩)) :
    closePtr = handle.val ∧ closePtr ≠ 0 ∧ statusPtrIsErr closePtr = false := by
  have notInProgress : closePtr ≠ 1 := by
    rintro rfl
    cases posted
  rcases StatusPointers.statusPtrToResult_cases notInProgress with
    ⟨_, decoded⟩ | ⟨_, decoded⟩ | ⟨nonNull, low, request, decoded, same⟩
  · cases decoded.symm.trans posted
  · cases decoded.symm.trans posted
  · cases decoded.symm.trans posted
    refine ⟨same.symm, nonNull, ?_⟩
    rw [← Bool.not_eq_true, StatusPointers.statusPtrIsErr_iff]
    exact Nat.not_le_of_lt low

theorem closePosted_of_posted
    (posted : statusPtrToResult closePtr = .ok (some ⟨some handle⟩)) :
    ClosePosted closePtr :=
  ⟨_, posted⟩

theorem not_closePosted_of_answered {result : Except Status Unit}
    (answered : (∃ error, statusPtrToResult closePtr = .error error ∧ result = .error error) ∨
      (statusPtrToResult closePtr = .ok none ∧ result = .ok ())) : ¬ ClosePosted closePtr := by
  rintro ⟨request, posts⟩
  rcases answered with ⟨error, failed, _⟩ | ⟨completed, _⟩
  · cases failed.symm.trans posts
  · cases completed.symm.trans posts

/-- With a request, only the checks tell what became of the close. -/
theorem observedSuccess_of_posted
    (posted : statusPtrToResult closePtr = .ok (some ⟨some handle⟩)) :
    ObservedSuccess closePtr checks ↔ FirstFinal checks (· = .ok) := by
  unfold ObservedSuccess FoundFinished
  rw [or_iff_right (posted_facts posted).2.1, and_iff_right (closePosted_of_posted posted)]

theorem observedFailure_of_posted
    (posted : statusPtrToResult closePtr = .ok (some ⟨some handle⟩)) (status : UcsStatus) :
    ObservedFailure closePtr checks status ↔
      FirstFinal checks fun found => found = status ∧ found.isErr = true := by
  unfold ObservedFailure FoundFinished
  rw [(posted_facts posted).2.2, and_iff_right (closePosted_of_posted posted)]
  simp

/-- A close that UCX answers without a request is correct. -/
theorem closesCorrectly_of_answered {result : Except Status Unit}
    (answered : (∃ error, statusPtrToResult closePtr = .error error ∧ result = .error error) ∨
      (statusPtrToResult closePtr = .ok none ∧ result = .ok ()))
    (success : result = .ok () ↔ closePtr = 0)
    (failure : ∀ status, result = .error status ↔
      statusPtrIsErr closePtr = true ∧ statusFromPtr closePtr = status) :
    ClosesCorrectly ep closePtr checks
      ((ep.close worker flags).execute (closeAnswers closePtr checks moved) []) := by
  have notPosted := not_closePosted_of_answered answered
  rw [execute_close_answered answered]
  constructor
  case closesOnce =>
    exact ⟨_, [], rfl, fun call member => absurd member List.not_mem_nil⟩
  case success =>
    simpa [Returns, ObservedSuccess, FoundFinished, notPosted] using success
  case failure =>
    intro status observed
    have failed : result = .error status := by
      simpa [ObservedFailure, FoundFinished, notPosted, failure status] using observed
    exact congrArg some failed
  case failureOnly =>
    intro status returned
    exact Or.inl (Or.inl ((failure status).mp (Option.some.inj returned)))
  case freed =>
    intro request
    refine iff_of_false ?_ fun found => notPosted found.2.1
    simp [closeCall]
  case freedOnce =>
    intro request
    simp [closeCall]
  case leaks => exact fun request same posted => absurd posted notPosted

/-- A close whose request stays in progress is correct. -/
theorem closesCorrectly_of_pending
    (posted : statusPtrToResult closePtr = .ok (some ⟨some handle⟩))
    (pending : ∀ index < 1000000, checks index = .inProgress) :
    ClosesCorrectly ep closePtr checks
      ((ep.close worker flags).execute (closeAnswers closePtr checks moved) []) := by
  have stays : StaysPending closePtr checks := ⟨closePosted_of_posted posted, pending⟩
  have counted : ∀ request, (closeCall ep flags ::
      repeatCalls (pendingRound handle worker) 1000000).count (.ucpRequestFree request) = 0 := by
    intro request
    rw [List.count_cons, count_free_rounds]
    simp [closeCall]
  rw [execute_close_of_pending posted pending]
  constructor
  case closesOnce => exact ⟨_, _, rfl, leavesEndpoints_rounds _⟩
  case success =>
    rw [observedSuccess_of_posted posted]
    exact iff_of_false nofun (TimeoutReports.not_firstFinal_of_pending pending)
  case failure =>
    intro status observed
    rw [observedFailure_of_posted posted] at observed
    exact absurd observed (TimeoutReports.not_firstFinal_of_pending pending)
  case failureOnly =>
    intro status returned
    cases returned
    exact Or.inr ⟨rfl, stays, countP_isCheck_close_rounds 1000000⟩
  case freed =>
    intro request
    rw [counted request]
    exact iff_of_false nofun fun found =>
      TimeoutReports.not_firstFinal_of_pending pending found.2.2
  case freedOnce => exact fun request => (counted request).trans_le (Nat.zero_le 1)
  case leaks => exact fun request same isPosted kept => ⟨rfl, stays⟩

/-- A wait that finds its request finished frees it if it succeeded. -/
theorem count_free_final (count : Nat) (request : NonNull) :
    (closeCall ep flags :: (repeatCalls (pendingRound handle worker) count ++
      .ucpRequestCheckStatus handle ::
        if (checks count).isErr then [] else [.ucpRequestFree handle])).count
          (.ucpRequestFree request) =
      if (checks count).isErr = false ∧ request = handle then 1 else 0 := by
  rw [List.count_cons, List.count_append, count_free_rounds, List.count_cons]
  cases (checks count).isErr with
  | true => simp [closeCall]
  | false => by_cases same : request = handle <;> simp [closeCall, same, Ne.symm]

/-- A close whose request a check finds completed is correct. -/
theorem closesCorrectly_of_completed {count : Nat}
    (posted : statusPtrToResult closePtr = .ok (some ⟨some handle⟩)) (within : count < 1000000)
    (pending : ∀ index < count, checks index = .inProgress) (completed : checks count = .ok) :
    ClosesCorrectly ep closePtr checks
      ((ep.close worker flags).execute (closeAnswers closePtr checks moved) []) := by
  have final : checks count ≠ .inProgress := by
    rw [completed]
    decide
  have succeeded : (checks count).isErr = false := by
    rw [completed]
    rfl
  have returned : statusToResult (checks count) = .ok () := by
    rw [completed]
    rfl
  have found : FoundFinished closePtr checks fun _ => True :=
    ⟨closePosted_of_posted posted, count, within, pending, final, trivial⟩
  rw [execute_close_of_final posted within pending final]
  constructor
  case closesOnce =>
    refine ⟨_, _, rfl, (leavesEndpoints_rounds count).append ?_⟩
    intro call member
    rw [succeeded] at member
    simp only [Bool.false_eq_true, if_false, List.mem_cons, List.not_mem_nil,
      or_false] at member
    rcases member with rfl | rfl <;> exact fun passed => List.not_mem_nil
  case success =>
    rw [observedSuccess_of_posted posted,
      TimeoutReports.firstFinal_iff within pending final]
    exact iff_of_true (congrArg some returned) completed
  case failure =>
    intro status observed
    rw [observedFailure_of_posted posted,
      TimeoutReports.firstFinal_iff within pending final, succeeded] at observed
    cases observed.2
  case failureOnly =>
    intro status failed
    cases returned.symm.trans (Option.some.inj failed)
  case freed =>
    intro request
    rw [count_free_final, if_congr (and_iff_right succeeded) rfl rfl]
    by_cases same : request = handle
    · subst same
      exact iff_of_true (if_pos rfl) ⟨(posted_facts posted).1, found⟩
    · rw [if_neg same]
      refine iff_of_false nofun fun freed => same (Subtype.ext ?_)
      exact freed.1.symm.trans (posted_facts posted).1
  case freedOnce =>
    intro request
    rw [count_free_final]
    split <;> decide
  case leaks =>
    intro request same isPosted kept
    have sameRequest : request = handle :=
      Subtype.ext (same.symm.trans (posted_facts posted).1)
    refine absurd (List.count_pos_iff.mp ?_) kept
    rw [count_free_final, if_pos ⟨succeeded, sameRequest⟩]
    exact Nat.one_pos

/-- A close whose request a check finds finished is correct exactly if it
succeeded: a request that failed is not freed. -/
theorem closesCorrectly_iff_of_final {count : Nat}
    (posted : statusPtrToResult closePtr = .ok (some ⟨some handle⟩)) (within : count < 1000000)
    (pending : ∀ index < count, checks index = .inProgress)
    (final : checks count ≠ .inProgress) :
    ClosesCorrectly ep closePtr checks
      ((ep.close worker flags).execute (closeAnswers closePtr checks moved) []) ↔
      (checks count).isErr = false := by
  constructor
  · intro correct
    have found : FoundFinished closePtr checks fun _ => True :=
      ⟨closePosted_of_posted posted, count, within, pending, final, trivial⟩
    have freed := (correct.freed handle).mpr ⟨(posted_facts posted).1, found⟩
    rw [execute_close_of_final posted within pending final, count_free_final] at freed
    by_contra failed
    simp [failed] at freed
  · intro succeeded
    have completed : checks count = .ok :=
      ((UcsStatus.isErr_eq_false_iff _).mp succeeded).resolve_right final
    exact closesCorrectly_of_completed posted within pending completed

/-- Without a request, a close reports a timeout only if UCX answers with one. -/
theorem timeout_pending_iff_of_answered {result : Except Status Unit}
    (answered : (∃ error, statusPtrToResult closePtr = .error error ∧ result = .error error) ∨
      (statusPtrToResult closePtr = .ok none ∧ result = .ok ())) :
    (Returns (.error .errTimedOut)
        ((ep.close worker flags).execute (closeAnswers closePtr checks moved) []) →
      StaysPending closePtr checks) ↔ ¬ UcxReportsTimeout checks closePtr := by
  have notPosted := not_closePosted_of_answered answered
  rw [execute_close_answered answered]
  rcases answered with ⟨error, failed, rfl⟩ | ⟨completed, rfl⟩
  · simp [Returns, StaysPending, UcxReportsTimeout, notPosted, failed]
  · simp [Returns, StaysPending, UcxReportsTimeout, notPosted, completed]

/-- With a request, a close reports a timeout of its own or the one that a check
found. -/
theorem timeout_pending_iff_of_posted
    (posted : statusPtrToResult closePtr = .ok (some ⟨some handle⟩)) :
    (Returns (.error .errTimedOut)
        ((ep.close worker flags).execute (closeAnswers closePtr checks moved) []) →
      StaysPending closePtr checks) ↔ ¬ UcxReportsTimeout checks closePtr := by
  have isPosted := closePosted_of_posted posted
  have noError : statusPtrToResult closePtr ≠ .error .errTimedOut := by
    rw [posted]
    exact nofun
  unfold UcxReportsTimeout
  rw [or_iff_right noError, and_iff_right isPosted]
  rcases first_final_or_pending checks 1000000 with ⟨count, within, pending, final⟩ | pending
  · have notStays : ¬ StaysPending closePtr checks := fun stays => final (stays.2 count within)
    rw [execute_close_of_final posted within pending final,
      TimeoutReports.firstFinal_iff within pending final,
      ← TimeoutReports.statusToResult_eq_timedOut_iff]
    simp [Returns, notStays]
  · rw [execute_close_of_pending posted pending]
    exact iff_of_true (fun _ => ⟨isPosted, pending⟩)
      (TimeoutReports.not_firstFinal_of_pending pending)

/-- For every answer to the close and every sequence of status answers,
`Ep::close` is correct exactly if no check finds that the close request failed;
and it reports a timeout only for a request that stays in progress exactly if
UCX reports none. -/
theorem closes_correctly_iff (closePtr : Word)
    (documented : closePtr ≠ statusWord .inProgress) (checks : Nat → UcsStatus)
    (moved : Nat → Nat) (ep : Ep) (worker : Worker) (flags : BitVec 32) :
    let execution := (ep.close worker flags).execute (closeAnswers closePtr checks moved) []
    (ClosesCorrectly ep closePtr checks execution ↔
      ¬ FoundFinished closePtr checks fun found => found.isErr = true) ∧
    ((Returns (.error .errTimedOut) execution → StaysPending closePtr checks) ↔
      ¬ UcxReportsTimeout checks closePtr) := by
  intro execution
  rcases StatusPointers.statusPtrToResult_cases documented with
    ⟨null, completed⟩ | ⟨high, failed⟩ | ⟨_, _, request, posted, _⟩
  · have notPosted := not_closePosted_of_answered (Or.inr ⟨completed, rfl⟩)
    refine ⟨iff_of_true (closesCorrectly_of_answered (Or.inr ⟨completed, rfl⟩) ?_ ?_)
      fun found => notPosted found.1, timeout_pending_iff_of_answered (Or.inr ⟨completed, rfl⟩)⟩
    · exact iff_of_true rfl null
    · intro status
      rw [null]
      exact iff_of_false nofun fun failure => absurd failure.1 (by decide)
  · have isErr := (StatusPointers.statusPtrIsErr_iff closePtr).mpr high
    have notPosted := not_closePosted_of_answered (Or.inl ⟨_, failed, rfl⟩)
    refine ⟨iff_of_true (closesCorrectly_of_answered (Or.inl ⟨_, failed, rfl⟩) ?_ ?_)
      fun found => notPosted found.1, timeout_pending_iff_of_answered (Or.inl ⟨_, failed, rfl⟩)⟩
    · refine iff_of_false nofun ?_
      rintro rfl
      exact absurd isErr (by decide)
    · intro status
      rw [isErr]
      simp
  · obtain ⟨handle, rfl⟩ := request_of_statusPtrToResult posted
    refine ⟨?_, timeout_pending_iff_of_posted posted⟩
    unfold FoundFinished
    rw [and_iff_right (closePosted_of_posted posted)]
    rcases first_final_or_pending checks 1000000 with ⟨count, within, pending, final⟩ | pending
    · rw [closesCorrectly_iff_of_final posted within pending final,
        TimeoutReports.firstFinal_iff within pending final, Bool.not_eq_true]
    · exact iff_of_true (closesCorrectly_of_pending posted pending)
        (TimeoutReports.not_firstFinal_of_pending pending)

/-- A close whose request succeeds at the first check. -/
theorem successful_close_correct :
    ClosesCorrectly ⟨⟨0x1000⟩, ⟨0⟩⟩ 0x2000 (fun _ => .ok)
      ((Ep.close ⟨⟨0x1000⟩, ⟨0⟩⟩ ⟨⟨0x3000⟩, ⟨0⟩⟩ 0).execute
        (closeAnswers 0x2000 (fun _ => .ok) fun _ => 1) []) := by
  refine (closes_correctly_iff 0x2000 (by decide) (fun _ => .ok) (fun _ => 1)
    ⟨⟨0x1000⟩, ⟨0⟩⟩ ⟨⟨0x3000⟩, ⟨0⟩⟩ 0).1.mpr ?_
  rintro ⟨_, count, _, _, _, failed⟩
  have noError : UcsStatus.ok.isErr = false := by decide
  exact Bool.false_ne_true (noError.symm.trans failed)

/-- The peer resets the connection: the first check finds the close request
failed, and `Ep::close` forgets it. -/
theorem failed_close_leaks :
    ¬ ClosesCorrectly ⟨⟨0x1000⟩, ⟨0⟩⟩ 0x2000 (fun _ => .errConnectionReset)
      ((Ep.close ⟨⟨0x1000⟩, ⟨0⟩⟩ ⟨⟨0x3000⟩, ⟨0⟩⟩ 0).execute
        (closeAnswers 0x2000 (fun _ => .errConnectionReset) fun _ => 1) []) := by
  have posted : statusPtrToResult 0x2000 = .ok (some ⟨some ⟨0x2000, by decide⟩⟩) := rfl
  rw [@closesCorrectly_iff_of_final 0x2000 (fun _ => .errConnectionReset) (fun _ => 1) _ _
    _ _ 0 posted (by decide) (fun index below => absurd below (Nat.not_lt_zero index))
    (by decide)]
  decide

end EndpointClose

end UcxRs
