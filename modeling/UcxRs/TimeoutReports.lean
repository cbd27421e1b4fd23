import UcxRs.GuardDisposal
import UcxRs.WorkerOperations

/-!
# When a reported timeout is true

The waiting loops alternate a status check with a progress call and report a
timeout after the last progress call, without another check.  Here the status of
the request changes only during the progress calls of the loop, so it is a
function of their number.  A timeout is then reported for a request that is
still in progress unless the request becomes final in the very last round; the
close of an endpoint also passes on a timeout that UCX itself reports.
-/

namespace UcxRs

namespace TimeoutReports

open GuardDisposal
open Interaction (Environment Execution Program)
open Interaction.Program
open LockedThreads (Code)

/-- UCX answers a check with the status after the progress calls made so far.  A
close answers with the given status pointer. -/
def advancing (statusAfter : Nat → UcsStatus) (moved : Nat → Nat) (closePtr : Word) :
    Environment Call Answer :=
  fun history call =>
    match call with
    | .ucpRequestCheckStatus _ => some (statusAfter (history.countP isProgress))
    | .ucpWorkerProgress _ => some (moved (history.countP isProgress))
    | .ucpRequestFree _ => some ()
    | .ucpEpCloseNbx _ _ => some closePtr
    | _ => none

variable {statusAfter : Nat → UcsStatus} {moved : Nat → Nat} {closePtr : Word}
  {handle : NonNull} {worker : Worker} {Result : Type}

theorem serves_advancing :
    Serves (advancing statusAfter moved closePtr) handle worker fun history =>
      statusAfter (history.countP isProgress) :=
  ⟨fun _ => rfl, fun history => ⟨moved (history.countP isProgress), rfl⟩, fun _ => rfl⟩

@[simp]
theorem countP_isProgress_rounds (count : Nat) :
    (repeatCalls (pendingRound handle worker) count).countP isProgress = count := by
  induction count with
  | zero => rfl
  | succ count ih =>
      rw [repeatCalls_succ, List.countP_append, ih]
      exact Nat.add_comm 1 count

/-- The request becomes final in the last round of a loop, after its last
check. -/
def CompletesInLastRound (statusAfter : Nat → UcsStatus) : Prop :=
  (∀ index < 1000000, statusAfter index = .inProgress) ∧ statusAfter 1000000 ≠ .inProgress

/-- The first final status that a loop finds satisfies a predicate. -/
def FirstFinal (statusAfter : Nat → UcsStatus) (found : UcsStatus → Prop) : Prop :=
  ∃ count < 1000000, (∀ index < count, statusAfter index = .inProgress) ∧
    statusAfter count ≠ .inProgress ∧ found (statusAfter count)

/-- The first final status decides what the first final status satisfies. -/
theorem firstFinal_iff {found : UcsStatus → Prop} {count : Nat} (within : count < 1000000)
    (pending : ∀ index < count, statusAfter index = .inProgress)
    (final : statusAfter count ≠ .inProgress) :
    FirstFinal statusAfter found ↔ found (statusAfter count) := by
  constructor
  · rintro ⟨other, _, otherPending, otherFinal, satisfied⟩
    have same : other = count := by
      rcases Nat.lt_trichotomy other count with before | same | after
      · exact absurd (pending other before) otherFinal
      · exact same
      · exact absurd (otherPending count after) final
    rwa [same] at satisfied
  · exact fun satisfied => ⟨count, within, pending, final, satisfied⟩

theorem not_firstFinal_of_pending {found : UcsStatus → Prop}
    (pending : ∀ index < 1000000, statusAfter index = .inProgress) :
    ¬ FirstFinal statusAfter found := by
  rintro ⟨count, within, _, final, _⟩
  exact final (pending count within)

/-- The progress calls of an execution. -/
def progressCalls (execution : Execution Call Result) : Nat :=
  execution.calls.countP isProgress

/-- If the method reports a timeout, the request is still in progress. -/
def TimeoutIsPending (statusAfter : Nat → UcsStatus)
    (timedOut : Execution Call Result → Prop) (execution : Execution Call Result) : Prop :=
  timedOut execution → statusAfter (progressCalls execution) = .inProgress

/-- The method returned a given result. -/
def Returns (result : Result) (execution : Execution Call Result) : Prop :=
  execution.result = some result

/-- The guard let go of the request and UCX was not told. -/
def Leaks (handle : NonNull) (execution : Execution Call Unit) : Prop :=
  execution.result = some () ∧ .ucpRequestFree handle ∉ execution.calls

/-- What a loop reports: before its bound it reports a timeout for some final
statuses only, and it reports one at the bound. -/
structure Reports (statusAfter : Nat → UcsStatus)
    (timedOut : Execution Call Result → Prop) (early : UcsStatus → Prop)
    (execution : Execution Call Result) : Prop where
  final : ∀ count < 1000000, (∀ index < count, statusAfter index = .inProgress) →
    statusAfter count ≠ .inProgress →
    progressCalls execution = count ∧ (timedOut execution ↔ early (statusAfter count))
  pending : (∀ index < 1000000, statusAfter index = .inProgress) →
    progressCalls execution = 1000000 ∧ timedOut execution

/-- The timeouts of a loop are true exactly if the request does not become final
in the last round and no earlier final status makes the loop report one. -/
theorem Reports.timeoutIsPending_iff {timedOut : Execution Call Result → Prop}
    {early : UcsStatus → Prop} {execution : Execution Call Result}
    (reports : Reports statusAfter timedOut early execution) :
    TimeoutIsPending statusAfter timedOut execution ↔
      ¬ CompletesInLastRound statusAfter ∧ ¬ FirstFinal statusAfter early := by
  unfold TimeoutIsPending
  rcases first_final_or_pending statusAfter 1000000 with
    ⟨count, within, pending, final⟩ | pending
  · obtain ⟨progressed, timedOutIff⟩ := reports.final count within pending final
    rw [progressed, timedOutIff, firstFinal_iff within pending final]
    constructor
    · exact fun truthful => ⟨fun last => final (last.1 count within),
        fun found => final (truthful found)⟩
    · exact fun condition found => absurd found condition.2
  · obtain ⟨progressed, timedOut⟩ := reports.pending pending
    rw [progressed, and_iff_left (not_firstFinal_of_pending pending)]
    constructor
    · exact fun truthful last => last.2 (truthful timedOut)
    · intro notLast _
      by_contra final
      exact notLast ⟨pending, final⟩

/-- A loop that returns `timeout` after its last round.  What it returns on a
final status is `verdict` of the status. -/
theorem reports_poll {settle : Except Status Bool → Ffi (Option Result)}
    {verdict : UcsStatus → Result} {timeout : Result} {history : List Call}
    (noProgress : history.countP isProgress = 0)
    (settles : ∀ status, status ≠ .inProgress → ∀ calls, ∃ last,
      (settle ((statusToResult status).map fun _ => true)).execute
          (advancing statusAfter moved closePtr) calls =
        ⟨some (some (verdict status)), last⟩ ∧ last.countP isProgress = 0) :
    Reports statusAfter (Returns timeout) (fun status => verdict status = timeout)
      (((forRounds (pollRound handle worker settle) (pure timeout) 1000000).execute
        (advancing statusAfter moved closePtr) history).after history) := by
  have serves := @serves_advancing statusAfter moved closePtr handle worker
  have answered : ∀ index, statusAfter ((history ++
      repeatCalls (pendingRound handle worker) index).countP isProgress) =
        statusAfter index := by
    intro index
    rw [List.countP_append, noProgress, countP_isProgress_rounds, Nat.zero_add]
  constructor
  · intro count within pending final
    obtain ⟨last, settled, quiet⟩ := settles (statusAfter count) final
      (history ++ repeatCalls (pendingRound handle worker) count ++
        [.ucpRequestCheckStatus handle])
    rw [serves.execute_poll_of_final within
      (fun index bound => (answered index).trans (pending index bound))
      (by simpa only [answered] using final) (by simpa only [answered] using settled)]
    constructor
    · simp [progressCalls, isProgress, noProgress, quiet]
    · simp [Returns]
  · intro pending
    rw [serves.execute_poll_of_pending fun index bound =>
      (answered index).trans (pending index bound)]
    exact ⟨by simp [progressCalls, noProgress], rfl⟩

/-- `wait_request` returns what it found. -/
def returning (finished : Except Status Bool) : Ffi (Option (Except Status Bool)) :=
  pure (some finished)

theorem waitRequest_eq_poll (handle : NonNull) (worker : Worker) :
    worker.waitRequest ⟨some handle⟩ =
      forRounds (pollRound handle worker returning) (pure (.ok false)) 1000000 := by
  unfold Worker.waitRequest pollRound
  congr 1
  refine congrArg _ (funext fun finished => ?_)
  rcases finished with error | _ | _ <;> rfl

theorem waitRequest_truthful_iff :
    TimeoutIsPending statusAfter (Returns (.ok false))
        ((worker.waitRequest ⟨some handle⟩).execute
          (advancing statusAfter moved closePtr) []) ↔
      ¬ CompletesInLastRound statusAfter := by
  rw [waitRequest_eq_poll]
  have reports := @reports_poll statusAfter moved closePtr handle worker _ returning
    (fun status => (statusToResult status).map fun _ => true) (.ok false) [] rfl
    fun _ _ _ => ⟨[], rfl, rfl⟩
  refine reports.timeoutIsPending_iff.trans (and_iff_left ?_)
  rintro ⟨count, _, _, _, verdict⟩
  cases found : statusToResult (statusAfter count) with
  | error error => simp [found, Except.map] at verdict
  | ok success => simp [found, Except.map] at verdict

/-- The loop of a close frees the request on success and forgets it on an
error. -/
def closing (handle : NonNull) : Except Status Bool → Ffi (Option (Except Status Unit))
  | .ok _ => do
      Request.free ⟨some handle⟩
      pure (some (.ok ()))
  | .error error => pure (some (.error error))

theorem awaitClose_eq_poll (handle : NonNull) (worker : Worker) :
    Ep.awaitClose ⟨some handle⟩ worker =
      forRounds (pollRound handle worker (closing handle)) (pure (.error .errTimedOut))
        1000000 := by
  unfold Ep.awaitClose pollRound
  congr 1
  refine congrArg _ (funext fun finished => ?_)
  rcases finished with error | _ | _ <;> rfl

theorem statusToResult_eq_timedOut_iff (status : UcsStatus) :
    statusToResult status = .error .errTimedOut ↔ status = .errTimedOut := by
  constructor
  · intro reported
    unfold statusToResult at reported
    split at reported
    · exact Except.error.inj reported
    · cases reported
  · rintro rfl
    rfl

theorem awaitClose_truthful_iff {history : List Call}
    (noProgress : history.countP isProgress = 0) :
    TimeoutIsPending statusAfter (Returns (.error .errTimedOut))
        (((Ep.awaitClose ⟨some handle⟩ worker).execute
          (advancing statusAfter moved closePtr) history).after history) ↔
      ¬ CompletesInLastRound statusAfter ∧ ¬ FirstFinal statusAfter (· = .errTimedOut) := by
  rw [awaitClose_eq_poll]
  have serves := @serves_advancing statusAfter moved closePtr handle worker
  have reports := @reports_poll statusAfter moved closePtr handle worker _ (closing handle)
    statusToResult (.error .errTimedOut) history noProgress ?_
  · refine reports.timeoutIsPending_iff.trans ?_
    simp only [statusToResult_eq_timedOut_iff]
  · intro status _ calls
    cases found : statusToResult status with
    | error error => exact ⟨[], rfl, rfl⟩
    | ok success =>
        refine ⟨[.ucpRequestFree handle], ?_, rfl⟩
        exact execute_bind_some serves.execute_free _

theorem reports_progressToCompletion :
    Reports statusAfter (Leaks handle) (fun _ => False)
      ((progressToCompletion ⟨some handle⟩ worker).execute
        (advancing statusAfter moved closePtr) []) := by
  have serves := @serves_advancing statusAfter moved closePtr handle worker
  have answers : checkAnswers handle worker
      (fun history => statusAfter (history.countP isProgress)) = statusAfter := by
    funext count
    exact congrArg statusAfter (countP_isProgress_rounds count)
  have disposes := serves.disposes_progressToCompletion
  rw [answers] at disposes
  constructor
  · intro count within pending final
    rw [disposes.final count within pending final]
    constructor
    · simp [progressCalls, isProgress]
    · refine iff_of_false (fun leaks => leaks.2 ?_) not_false
      simp
  · intro pending
    rw [disposes.pending pending]
    exact ⟨countP_isProgress_rounds _, rfl, free_not_mem_rounds _⟩

theorem progressToCompletion_truthful_iff :
    TimeoutIsPending statusAfter (Leaks handle)
        ((progressToCompletion ⟨some handle⟩ worker).execute
          (advancing statusAfter moved closePtr) []) ↔
      ¬ CompletesInLastRound statusAfter := by
  refine reports_progressToCompletion.timeoutIsPending_iff.trans (and_iff_left ?_)
  rintro ⟨_, _, _, _, found⟩
  exact found

/-- UCX handed out a request for the close. -/
def ClosePosted (closePtr : Word) : Prop :=
  ∃ request, statusPtrToResult closePtr = .ok (some request)

/-- If the close reports a timeout, there is a close request and it is still in
progress. -/
def CloseTimeoutIsPending (statusAfter : Nat → UcsStatus) (closePtr : Word)
    (execution : Execution Call (Except Status Unit)) : Prop :=
  Returns (.error .errTimedOut) execution →
    ClosePosted closePtr ∧ statusAfter (progressCalls execution) = .inProgress

/-- UCX itself answers the close, or completes its request, with a timeout. -/
def UcxReportsTimeout (statusAfter : Nat → UcsStatus) (closePtr : Word) : Prop :=
  statusPtrToResult closePtr = .error .errTimedOut ∨
    (ClosePosted closePtr ∧ FirstFinal statusAfter (· = .errTimedOut))

theorem close_truthful_iff (ep : Ep) (flags : BitVec 32) :
    CloseTimeoutIsPending statusAfter closePtr
        ((ep.close worker flags).execute (advancing statusAfter moved closePtr) []) ↔
      ¬ UcxReportsTimeout statusAfter closePtr ∧
        ¬ (ClosePosted closePtr ∧ CompletesInLastRound statusAfter) := by
  unfold Ep.close CloseTimeoutIsPending UcxReportsTimeout
  rw [call_bind, execute_issue_some rfl]
  cases posted : statusPtrToResult closePtr with
  | error error =>
      have notPosted : ¬ ClosePosted closePtr := by
        rintro ⟨request, posts⟩
        cases posted.symm.trans posts
      simp [Returns, notPosted]
  | ok outcome =>
      cases outcome with
      | none =>
          have notPosted : ¬ ClosePosted closePtr := by
            rintro ⟨request, posts⟩
            cases posted.symm.trans posts
          simp [Returns, notPosted]
      | some request =>
          have isPosted : ClosePosted closePtr := ⟨request, posted⟩
          obtain ⟨handle, rfl⟩ := request_of_statusPtrToResult posted
          have awaited := @awaitClose_truthful_iff statusAfter moved closePtr handle worker
            [.ucpEpCloseNbx ep.handle { UcpRequestParam.zeroed with flags := flags }] rfl
          unfold TimeoutIsPending at awaited
          simp only [isPosted, true_and, reduceCtorEq, false_or]
          exact awaited.trans and_comm

/-- For every behaviour of UCX in which only the progress calls of the loop change
the request, the timeouts that `wait_request`, the release of a stream or
fetch-atomic guard and the close of an endpoint report are those of a request
that is still in progress, exactly if the request does not become final in the
last round and, for a close, UCX itself reports no timeout. -/
theorem timeouts_pending_iff (statusAfter : Nat → UcsStatus) (moved : Nat → Nat)
    (closePtr : Word) (handle : NonNull) (worker : Worker) (length : Nat) (ep : Ep)
    (flags : BitVec 32) :
    let run := fun {Result : Type} (program : Ffi Result) =>
      program.execute (advancing statusAfter moved closePtr) []
    let mt : MtWorker := ⟨worker⟩
    let stream : StreamRequest := ⟨some ⟨some handle⟩, worker, length⟩
    let fetch : FetchAmoRequest := ⟨some ⟨some handle⟩, worker⟩
    (∀ execution ∈ [run (worker.waitRequest ⟨some handle⟩),
        run (Code.erase (mt.waitRequest ⟨some handle⟩))],
      (TimeoutIsPending statusAfter (Returns (.ok false)) execution ↔
        ¬ CompletesInLastRound statusAfter)) ∧
    (∀ execution ∈ [run stream.free, run stream.drop, run fetch.free, run fetch.drop],
      (TimeoutIsPending statusAfter (Leaks handle) execution ↔
        ¬ CompletesInLastRound statusAfter)) ∧
    (CloseTimeoutIsPending statusAfter closePtr (run (ep.close worker flags)) ↔
      ¬ UcxReportsTimeout statusAfter closePtr ∧
        ¬ (ClosePosted closePtr ∧ CompletesInLastRound statusAfter)) := by
  intro run mt stream fetch
  refine ⟨?_, ?_, close_truthful_iff ep flags⟩
  · intro execution member
    have same : execution = run (worker.waitRequest ⟨some handle⟩) := by
      simpa only [run, mt, MtWorker.erase_waitRequest, List.mem_cons, List.not_mem_nil,
        or_false, or_self] using member
    rw [same]
    exact waitRequest_truthful_iff
  · intro execution member
    have same : execution = run (progressToCompletion ⟨some handle⟩ worker) := by
      simpa only [run, stream, fetch, StreamRequest.free_eq_drop,
        FetchAmoRequest.free_eq_drop, StreamRequest.drop, FetchAmoRequest.drop,
        List.mem_cons, List.not_mem_nil, or_false, or_self] using member
    rw [same]
    exact progressToCompletion_truthful_iff

/-- A request that completes in the given progress call. -/
def completesAfter (rounds count : Nat) : UcsStatus :=
  if count < rounds then .inProgress else .ok

theorem completesAfter_lastRound : CompletesInLastRound (completesAfter 1000000) := by
  refine ⟨fun index within => if_pos within, ?_⟩
  rw [completesAfter, if_neg (Nat.lt_irrefl _)]
  decide

/-- `wait_request` reports a timeout for a request that has completed. -/
theorem completed_request_times_out :
    ¬ TimeoutIsPending (completesAfter 1000000) (Returns (.ok false))
      ((Worker.waitRequest ⟨⟨0x1000⟩, ⟨0⟩⟩ ⟨some ⟨0x2000, by decide⟩⟩).execute
        (advancing (completesAfter 1000000) (fun _ => 1) 0) []) :=
  fun truthful => waitRequest_truthful_iff.mp truthful completesAfter_lastRound

end TimeoutReports

end UcxRs
