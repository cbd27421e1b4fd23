import UcxRs.AttributeQueries
import UcxRs.GuardDisposal
import UcxRs.LastOwner
import UcxRs.WorkerCalls
import UcxRs.WorkerCompletion

/-!
# From `MtWorker::new` to `ucp_worker_destroy`

`MtWorker::new` takes over a worker, asks UCX for its thread mode and keeps it only if
threads may share it; a worker that it rejects is dropped on the spot.  A worker that was
admitted lives as long as a clone of the `MtWorker` does, and the drop of the last clone
ends it.

The drop of a worker flushes it first and waits for the flush, for a bounded number of
rounds.  Unlike the guards it then frees the request even if UCX still answers that it
is in progress.
-/

namespace UcxRs

/-- The modes in which threads may share a worker. -/
def ThreadMode.isShared : ThreadMode → Bool
  | serialized => true
  | multi => true
  | _ => false

/-- `MtWorker::new`, which owns the worker: it is dropped on every error. -/
def MtWorker.new (worker : Worker) : Ffi (Except Status MtWorker) := do
  match ← worker.query WorkerAttrFields.threadMode with
  | .error error =>
      worker.drop
      pure (.error error)
  | .ok attr =>
      match attr.threadMode with
      | none =>
          worker.drop
          pure (.error .errInvalidParam)
      | some mode =>
          if !mode.isShared then do
            worker.drop
            pure (.error .errInvalidParam)
          else pure (.ok ⟨worker⟩)

namespace WorkerLifetimes

open GuardDisposal (Serves isCheck isProgress pendingRound)
open Interaction (Environment Execution Program)
open Interaction.Program
open LastOwner (DisposedOnce)
open LockedThreads (Action Code)
open TransitionRuns (EveryStep)
open WorkerSerialisation (Method guarded_body)

/-- UCX answers the mode query and the flush as given, the checks and the progress calls
of the wait from two sequences, and comes back from everything else. -/
def ending (queried : UcsStatus × UcpWorkerAttr) (flushed : Word) (checks : Nat → UcsStatus)
    (moved : Nat → Nat) : Environment Call Answer :=
  fun history call =>
    match call with
    | .ucpWorkerQuery _ _ => some queried
    | .storeAlive _ _ => some ()
    | .ucpWorkerFlushNbx _ _ => some flushed
    | .ucpRequestCheckStatus _ => some (checks (history.countP isCheck))
    | .ucpWorkerProgress _ => some (moved (history.countP isProgress))
    | .ucpRequestFree _ => some ()
    | .ucpWorkerDestroy _ => some ()
    | _ => none

theorem serves_ending (queried : UcsStatus × UcpWorkerAttr) (flushed : Word)
    (checks : Nat → UcsStatus) (moved : Nat → Nat) (handle : NonNull) (worker : Worker) :
    Serves (ending queried flushed checks moved) handle worker fun history =>
      checks (history.countP isCheck) :=
  ⟨fun _ => rfl, fun history => ⟨moved (history.countP isProgress), rfl⟩, fun _ => rfl⟩

/-- The request that the answer to a flush stands for. -/
def flushRequest (flushed : Word) : Option NonNull :=
  match statusPtrToResult flushed with
  | .ok (some request) => request.handle
  | _ => none

theorem statusPtrToResult_of_flushRequest {flushed : Word} {handle : NonNull}
    (isRequest : flushRequest flushed = some handle) :
    statusPtrToResult flushed = .ok (some ⟨some handle⟩) := by
  unfold flushRequest at isRequest
  rcases resultEq : statusPtrToResult flushed with error | _ | request
  · simp [resultEq] at isRequest
  · simp [resultEq] at isRequest
  · rw [resultEq] at isRequest
    exact congrArg (fun handle => Except.ok (some (Request.mk handle))) isRequest

/-- What the drop of a worker calls before it waits. -/
def opening (worker : Worker) : List Call :=
  [.storeAlive worker.alive false,
    .ucpWorkerFlushNbx worker.handle RequestParamBuilder.new.build.handle]

/-- The drop of a worker, after some calls and with what follows it: the flag is cleared
first and the worker destroyed last; a flush that is pending is polled until its first
final check, or a million times, and freed exactly once either way. -/
structure Ends {Result : Type} (worker : Worker) (flushed : Word) (checks : Nat → UcsStatus)
    (before : List Call) (result : Result) (execution : Execution Call Result) : Prop where
  immediate : flushRequest flushed = none →
    execution = ⟨some result,
      before ++ opening worker ++ [.ucpWorkerDestroy worker.handle]⟩
  final : ∀ handle, flushRequest flushed = some handle → ∀ count < 1000000,
    (∀ index < count, checks index = .inProgress) → checks count ≠ .inProgress →
      execution = ⟨some result, before ++ opening worker ++
        repeatCalls (pendingRound handle worker) count ++
          [.ucpRequestCheckStatus handle, .ucpRequestFree handle,
            .ucpWorkerDestroy worker.handle]⟩
  pending : ∀ handle, flushRequest flushed = some handle →
    (∀ index < 1000000, checks index = .inProgress) →
      execution = ⟨some result, before ++ opening worker ++
        repeatCalls (pendingRound handle worker) 1000000 ++
          [.ucpRequestFree handle, .ucpWorkerDestroy worker.handle]⟩

theorem awaitFlush_eq_poll (worker : Worker) (handle : NonNull) :
    worker.awaitFlush ⟨some handle⟩ =
      forRounds (GuardDisposal.pollRound handle worker fun _ => pure (some ())) (pure ())
        1000000 := by
  unfold Worker.awaitFlush GuardDisposal.pollRound
  congr 1
  refine congrArg _ (funext fun finished => ?_)
  rcases finished with error | _ | _ <;> rfl

section Drop

variable {queried : UcsStatus × UcpWorkerAttr} {flushed : Word} {checks : Nat → UcsStatus}
  {moved : Nat → Nat}

/-- The wait for the flush and what follows it. -/
def afterFlush (worker : Worker) : Except Status (Option Request) → Ffi Unit
  | .ok (some request) => do
      worker.awaitFlush request
      request.drop
      perform (.ucpWorkerDestroy worker.handle)
  | _ => perform (.ucpWorkerDestroy worker.handle)

section Calls

variable {allowed : Call → Prop} {worker : Worker}

theorem everyCall_awaitFlush (request : Request)
    (check : ∀ handle, allowed (.ucpRequestCheckStatus handle))
    (progress : allowed (.ucpWorkerProgress worker.handle)) :
    (worker.awaitFlush request).EveryCall allowed := by
  unfold Worker.awaitFlush
  refine EveryCall.forRounds ?_ (everyCall_done _ _) _
  refine EveryCall.bind (WorkerWorld.everyCall_checkFinished request check) fun finished => ?_
  rcases finished with error | _ | _
  · exact everyCall_done _ _
  · exact ⟨progress, fun _ => trivial⟩
  · exact everyCall_done _ _

theorem everyCall_afterFlush (check : ∀ handle, allowed (.ucpRequestCheckStatus handle))
    (progress : allowed (.ucpWorkerProgress worker.handle))
    (free : ∀ handle, allowed (.ucpRequestFree handle))
    (destroy : allowed (.ucpWorkerDestroy worker.handle))
    (flushed : Except Status (Option Request)) :
    (afterFlush worker flushed).EveryCall allowed := by
  have destroys : (perform (.ucpWorkerDestroy worker.handle) : Ffi Unit).EveryCall allowed :=
    ⟨destroy, fun _ => trivial⟩
  rcases flushed with error | _ | request
  · exact destroys
  · exact destroys
  · refine (everyCall_awaitFlush request check progress).bind fun _ => ?_
    refine EveryCall.bind ?_ fun _ => destroys
    obtain ⟨_ | handle⟩ := request
    · exact everyCall_done _ _
    · exact ⟨free handle, fun _ => trivial⟩

end Calls

theorem drop_eq_afterFlush (worker : Worker) :
    worker.drop = .issue (.storeAlive worker.alive false) fun _ =>
      .issue (.ucpWorkerFlushNbx worker.handle RequestParamBuilder.new.build.handle)
        fun flushed : Word => afterFlush worker (statusPtrToResult flushed) := by
  refine congrArg (Program.issue _) (funext fun _ => ?_)
  refine congrArg (Program.issue (Call.ucpWorkerFlushNbx worker.handle _))
    (funext fun flushed : Word => ?_)
  rcases resultEq : statusPtrToResult flushed with error | _ | request
  · simp only [andThen, resultEq]
    rfl
  · simp only [andThen, resultEq]
    rfl
  · simp only [andThen, resultEq]
    rfl

theorem execute_drop (worker : Worker) (history : List Call) :
    worker.drop.execute (ending queried flushed checks moved) history =
      ((afterFlush worker (statusPtrToResult flushed)).execute
        (ending queried flushed checks moved) (history ++ opening worker)).after
          (opening worker) := by
  have stored : ending queried flushed checks moved history
      (.storeAlive worker.alive false) = some () := rfl
  have answered : ending queried flushed checks moved
      (history ++ [.storeAlive worker.alive false]) (.ucpWorkerFlushNbx worker.handle
        RequestParamBuilder.new.build.handle) = some flushed := rfl
  rw [drop_eq_afterFlush, execute_issue_some stored, execute_issue_some answered,
    Execution.after_after, List.append_assoc]
  rfl

/-- What follows a wait that has returned. -/
theorem execute_afterWait {worker : Worker} {handle : NonNull} {history calls : List Call}
    (waited : (worker.awaitFlush ⟨some handle⟩).execute (ending queried flushed checks moved)
      history = ⟨some (), calls⟩) :
    (afterFlush worker (.ok (some ⟨some handle⟩))).execute
        (ending queried flushed checks moved) history =
      ⟨some (), calls ++ [.ucpRequestFree handle, .ucpWorkerDestroy worker.handle]⟩ := by
  unfold afterFlush
  rw [execute_bind_some waited]
  rfl

theorem ends_drop (worker : Worker) {history : List Call}
    (unchecked : history.countP isCheck = 0) :
    Ends worker flushed checks [] ()
      (worker.drop.execute (ending queried flushed checks moved) history) := by
  have serves := fun handle => serves_ending queried flushed checks moved handle worker
  have counted : ∀ handle index, (history ++ opening worker ++
      repeatCalls (pendingRound handle worker) index).countP isCheck = index := by
    intro handle index
    rw [List.countP_append, List.countP_append, unchecked, GuardDisposal.countP_rounds]
    exact Nat.zero_add index
  constructor
  · intro none
    rw [execute_drop]
    rcases resultEq : statusPtrToResult flushed with error | _ | request
    · rfl
    · rfl
    · obtain ⟨handle, rfl⟩ := request_of_statusPtrToResult resultEq
      simp [flushRequest, resultEq] at none
  · intro handle isRequest count within pending final
    have waited : (worker.awaitFlush ⟨some handle⟩).execute
        (ending queried flushed checks moved) (history ++ opening worker) =
          ⟨some (), repeatCalls (pendingRound handle worker) count ++
            [.ucpRequestCheckStatus handle]⟩ := by
      rw [awaitFlush_eq_poll]
      refine (serves handle).execute_poll_of_final within (fun index bound => ?_) ?_ rfl
      · rw [counted handle index]
        exact pending index bound
      · rw [counted handle count]
        exact final
    rw [execute_drop, statusPtrToResult_of_flushRequest isRequest, execute_afterWait waited]
    simp
  · intro handle isRequest pending
    have waited : (worker.awaitFlush ⟨some handle⟩).execute
        (ending queried flushed checks moved) (history ++ opening worker) =
          ⟨some (), repeatCalls (pendingRound handle worker) 1000000⟩ := by
      rw [awaitFlush_eq_poll, (serves handle).execute_poll_of_pending fun index bound => ?_]
      · simp
      · rw [counted handle index]
        exact pending index bound
    rw [execute_drop, statusPtrToResult_of_flushRequest isRequest, execute_afterWait waited]
    simp

/-- What a program that drops the worker and returns a result does. -/
theorem Ends.andThen {Result : Type} {worker : Worker} {history : List Call}
    (ends : Ends worker flushed checks [] ()
      (worker.drop.execute (ending queried flushed checks moved) history))
    (before : List Call) (result : Result) :
    Ends worker flushed checks before result
      (((worker.drop >>= fun _ => pure result).execute
        (ending queried flushed checks moved) history).after before) := by
  constructor
  · intro none
    rw [execute_bind_some (ends.immediate none)]
    simp
  · intro handle isRequest count within pending final
    rw [execute_bind_some (ends.final handle isRequest count within pending final)]
    simp
  · intro handle isRequest pending
    rw [execute_bind_some (ends.pending handle isRequest pending)]
    simp

end Drop

/-- The query of `MtWorker::new`. -/
def modeQuery (worker : Worker) : Call :=
  .ucpWorkerQuery worker.handle
    { UcpWorkerAttr.zeroed with fieldMask := WorkerAttrFields.threadMode }

/-- A worker is admitted if the query succeeds with a shared mode, after the query and
nothing else.  Otherwise it is ended, and the error is UCX's or `INVALID_PARAM`. -/
structure AdmitsOrEnds (worker : Worker) (queried : UcsStatus × UcpWorkerAttr)
    (flushed : Word) (checks : Nat → UcsStatus)
    (execution : Execution Call (Except Status MtWorker)) : Prop where
  admitted : queried.1.isErr = false →
    queried.2.threadMode = .serialized ∨ queried.2.threadMode = .multi →
      execution = ⟨some (.ok ⟨worker⟩), [modeQuery worker]⟩
  rejected : queried.1.isErr = false →
    ¬ (queried.2.threadMode = .serialized ∨ queried.2.threadMode = .multi) →
      Ends worker flushed checks [modeQuery worker] (.error .errInvalidParam) execution
  failed : queried.1.isErr = true →
    Ends worker flushed checks [modeQuery worker] (.error queried.1) execution

section Admission

variable {queried : UcsStatus × UcpWorkerAttr} {flushed : Word} {checks : Nat → UcsStatus}
  {moved : Nat → Nat}

/-- Drop the worker and return an error. -/
def dropThen (worker : Worker) (error : Status) : Ffi (Except Status MtWorker) := do
  worker.drop
  pure (.error error)

/-- What `MtWorker::new` does with the answer to its query. -/
def decideMode (worker : Worker) (status : UcsStatus) (attr : UcpWorkerAttr) :
    Ffi (Except Status MtWorker) :=
  match statusToResult status with
  | .error error => dropThen worker error
  | .ok () =>
      if (ThreadMode.fromFfi attr.threadMode).isShared then pure (.ok ⟨worker⟩)
      else dropThen worker .errInvalidParam

theorem new_eq_decideMode (worker : Worker) :
    MtWorker.new worker = .issue (modeQuery worker)
      fun (status, attr) => decideMode worker status attr := by
  refine congrArg (Program.issue (modeQuery worker)) (funext fun (status, attr) => ?_)
  unfold decideMode
  rcases resultEq : statusToResult status with error | success
  · simp only [andThen, resultEq]
    rfl
  · simp only [andThen, resultEq]
    change (if !(ThreadMode.fromFfi attr.threadMode).isShared then
        dropThen worker .errInvalidParam else pure (.ok ⟨worker⟩)) = _
    cases (ThreadMode.fromFfi attr.threadMode).isShared <;> rfl

theorem execute_new (worker : Worker) :
    (MtWorker.new worker).execute (ending queried flushed checks moved) [] =
      ((decideMode worker queried.1 queried.2).execute (ending queried flushed checks moved)
        [modeQuery worker]).after [modeQuery worker] := by
  have answered : ending queried flushed checks moved [] (modeQuery worker) =
      some queried := rfl
  rw [new_eq_decideMode, execute_issue_some answered]
  rfl

theorem decideMode_of_ok {worker : Worker} {status : UcsStatus} (success : status.isErr = false)
    (attr : UcpWorkerAttr) :
    decideMode worker status attr =
      if (ThreadMode.fromFfi attr.threadMode).isShared then pure (.ok ⟨worker⟩)
      else dropThen worker .errInvalidParam := by
  unfold decideMode statusToResult
  rw [success]
  rfl

theorem isShared_fromFfi_iff (mode : UcsThreadMode) :
    (ThreadMode.fromFfi mode).isShared = true ↔ mode = .serialized ∨ mode = .multi := by
  cases mode <;> simp [ThreadMode.fromFfi, ThreadMode.isShared]

end Admission

/-- `MtWorker::new` keeps or ends the worker it is given, whatever UCX answers. -/
theorem new_admits_or_ends (worker : Worker) (queried : UcsStatus × UcpWorkerAttr)
    (flushed : Word) (checks : Nat → UcsStatus) (moved : Nat → Nat) :
    AdmitsOrEnds worker queried flushed checks
      ((MtWorker.new worker).execute (ending queried flushed checks moved) []) := by
  have ends := @ends_drop queried flushed checks moved worker [modeQuery worker] rfl
  constructor
  · intro success shared
    rw [execute_new, decideMode_of_ok success, if_pos ((isShared_fromFfi_iff _).mpr shared)]
    rfl
  · intro success unshared
    rw [execute_new, decideMode_of_ok success,
      if_neg fun shared => unshared ((isShared_fromFfi_iff _).mp shared)]
    exact ends.andThen _ _
  · intro isErr
    have dropped : decideMode worker queried.1 queried.2 = dropThen worker queried.1 := by
      unfold decideMode statusToResult
      rw [isErr]
      rfl
    rw [execute_new, dropped]
    exact ends.andThen _ _

/-- A method that leaves the worker alive.  Safe code cannot destroy a worker that it
has by reference, so that is every operation of `with_worker`. -/
def Lends (mt : MtWorker) : Method → Prop
  | .withWorker operation =>
      (operation mt.worker).EveryCall (· ≠ .ucpWorkerDestroy mt.worker.handle)
  | _ => True

abbrev LendingMethod (mt : MtWorker) : Type :=
  { method : Method // Lends mt method }

def body (mt : MtWorker) (method : LendingMethod mt) : Code Answer Unit :=
  method.val.body mt

def Destroys (worker : Worker) (call : Call) : Prop :=
  call = .ucpWorkerDestroy worker.handle

/-- An action of a method that does not destroy the worker. -/
abbrev Keeps (mt : MtWorker) (action : Action Call) : Prop :=
  ¬ LastOwner.IsClosing (Destroys mt.worker) action

theorem awaitFlush_keeps (worker : Worker) (request : Request) :
    (worker.awaitFlush request).EveryCall fun call => ¬ Destroys worker call :=
  everyCall_awaitFlush request (by rintro handle ⟨⟩) (by rintro ⟨⟩)

theorem closesWith_drop (worker : Worker) : worker.drop.ClosesWith (Destroys worker) := by
  have destroys : (perform (.ucpWorkerDestroy worker.handle) : Ffi Unit).ClosesWith
      (Destroys worker) := .inl ⟨rfl, fun _ => ⟨(), rfl⟩⟩
  rw [drop_eq_afterFlush]
  refine .inr ⟨by rintro ⟨⟩, fun _ => .inr ⟨by rintro ⟨⟩, fun (flushed : Word) => ?_⟩⟩
  change (afterFlush worker (statusPtrToResult flushed)).ClosesWith (Destroys worker)
  rcases resultEq : statusPtrToResult flushed with error | _ | request
  · exact destroys
  · exact destroys
  · obtain ⟨handle, rfl⟩ := request_of_statusPtrToResult resultEq
    refine ClosesWith.bind (awaitFlush_keeps worker _) fun _ => ?_
    exact .inr ⟨by rintro ⟨⟩, fun _ => destroys⟩

section Bodies

variable {Result : Type}

theorem keeps_discard {mt : MtWorker} {code : Code Answer Result}
    (keeps : code.EveryCall (Keeps mt)) :
    (code >>= fun _ => pure ()).EveryCall (Keeps mt) :=
  EveryCall.bind keeps fun _ => trivial

theorem keeps_holdingLock (mt : MtWorker) {operation : Worker → Ffi Result}
    (keeps : (operation mt.worker).EveryCall fun call => ¬ Destroys mt.worker call) :
    (mt.holdingLock operation).EveryCall (Keeps mt) :=
  Code.everyCall_locked id (fun _ => id) keeps

theorem keeps_packAddress (mt : MtWorker) : mt.packAddress.EveryCall (Keeps mt) := by
  refine keeps_holdingLock mt ⟨by rintro ⟨⟩, ?_⟩
  rintro ⟨status, address, bytes⟩
  dsimp only [Program.andThen]
  cases statusToResult status with
  | error error => trivial
  | ok success => exact ⟨by rintro ⟨⟩, fun _ => trivial⟩

theorem keeps_waitRequest (mt : MtWorker) (request : Request) :
    (mt.waitRequest request).EveryCall (Keeps mt) := by
  refine EveryCall.forRounds ?_ (everyCall_done _ _) _
  have checks : (Code.lift request.checkFinished).EveryCall (Keeps mt) :=
    Code.everyCall_lift (WorkerWorld.everyCall_checkFinished request (by rintro handle ⟨⟩))
  refine checks.bind fun finished => ?_
  rcases finished with error | _ | _
  · exact everyCall_done _ _
  · refine EveryCall.bind ?_ fun _ => trivial
    exact keeps_holdingLock mt ⟨by rintro ⟨⟩, fun _ => trivial⟩
  · exact everyCall_done _ _

theorem keeps_body (mt : MtWorker) (method : LendingMethod mt) :
    (body mt method).EveryCall (Keeps mt) := by
  obtain ⟨method, lends⟩ := method
  cases method with
  | cancelRequest request =>
      refine keeps_discard (keeps_holdingLock mt ?_)
      obtain ⟨_ | handle⟩ := request
      · trivial
      · exact ⟨by rintro ⟨⟩, fun _ => trivial⟩
  | waitRequest request => exact keeps_discard (keeps_waitRequest mt request)
  | packAddress => exact keeps_discard (keeps_packAddress mt)
  | withWorker operation =>
      exact keeps_discard (Code.everyCall_lockedUnwinding id (fun _ => id) lends)
  | _ =>
      exact keeps_discard (keeps_holdingLock mt ⟨by rintro ⟨⟩, fun _ => trivial⟩)

end Bodies

/-- Threads clone an `MtWorker`, drop clones and run methods through them, in any
interleaving: `ucp_worker_destroy` is called for the worker once, by the drop of the last
clone, when no method runs and nobody holds the mutex, and no call follows it. -/
theorem worker_destroyed_once (mt : MtWorker) (poisoned : Bool) (owner : Nat)
    (run : List (LastOwner.Label Answer (LendingMethod mt))) :
    EveryStep (LastOwner.step (body mt) mt.worker.drop)
      (fun _ _ after => DisposedOnce (Destroys mt.worker) after)
      (LastOwner.World.initial poisoned owner) run := by
  have balanced : ∀ method, LockedThreads.Balanced false (body mt method) := fun method =>
    LockedThreads.balanced_of_guarded (@guarded_body (fun _ => False) mt method.val)
  exact LastOwner.disposed_once balanced (keeps_body mt) (closesWith_drop mt.worker) poisoned
    owner run

end WorkerLifetimes

end UcxRs
