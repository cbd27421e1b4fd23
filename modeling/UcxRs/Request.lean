import UcxRs.RequestParams

/-!
# Requests and the workers that progress them

A `Request` owns the pointer of a pending UCX operation until it gives the
pointer up.  Every method is a program over the calls of `UcpCalls`; a method
that consumes its receiver ends with the receiver's own `drop`, as the source's
does, so that what a drop does to an emptied wrapper is part of the model.
-/

namespace UcxRs

open Interaction (Program)
open Interaction.Program (forRounds)

/-- The fields of `Worker` that its operations on requests use. -/
structure Worker where
  handle : WorkerHandle
  alive : AliveFlag
  deriving DecidableEq, Repr

/-- `Worker::progress` of a release build. -/
def Worker.progress (worker : Worker) : Ffi Bool := do
  let progress ← perform (.ucpWorkerProgress worker.handle)
  pure (decide (progress > 0))

structure Request where
  handle : Option NonNull
  deriving DecidableEq, Repr

/-- `RequestState`, what `Request::test` returns. -/
structure RequestState where
  status : Except Status Unit

structure TagInfo where
  length : Nat
  senderTag : Word
  deriving DecidableEq, Repr

def TagInfo.fromFfi (ffi : UcpTagRecvInfo) : TagInfo where
  length := ffi.length
  senderTag := ffi.senderTag

/-- `map_tag_recv_test_status`. -/
def mapTagRecvTestStatus (status : UcsStatus) (info : UcpTagRecvInfo) :
    Except Status (Option TagInfo) :=
  match status with
  | .ok => .ok (some (.fromFfi info))
  | .inProgress => .ok none
  | status => .error status

namespace Request

def new (requestHandle : Word) : Option Request :=
  (NonNull.new requestHandle).map fun handle => ⟨some handle⟩

def fromRaw (ptr : Word) : Request where
  handle := NonNull.new ptr

/-- The raw pointer, or null once the request has been given up. -/
def asPtr (request : Request) : Word :=
  match request.handle with
  | some handle => handle.val
  | none => 0

def isLive (request : Request) : Bool :=
  request.handle.isSome

def drop (request : Request) : Ffi Unit :=
  match request.handle with
  | some handle => perform (.ucpRequestFree handle)
  | none => pure ()

/-- The status goes through the cast to a status pointer, so the pointer test
decides whether it is an error. -/
def checkFinished (request : Request) : Ffi (Except Status Bool) :=
  match request.handle with
  | none => pure (.ok true)
  | some handle => do
      let status ← perform (.ucpRequestCheckStatus handle)
      let statusPtr := statusWord status
      if statusPtrIsErr statusPtr then
        pure (.error (statusFromPtr statusPtr))
      else
        pure (.ok (status == UcsStatus.ok))

def isCompleted (request : Request) : Ffi Bool :=
  match request.handle with
  | none => pure true
  | some handle => do
      let completed ← perform (.ucpRequestIsCompleted handle)
      pure (completed != 0)

def test (request : Request) : Ffi RequestState :=
  match request.handle with
  | none => pure ⟨.ok ()⟩
  | some handle => do
      let (status, _info) ← perform (.ucpRequestTest handle)
      pure ⟨statusToResult status⟩

/-- The length cell holds zero until UCX writes it. -/
def streamRecvTest (request : Request) : Ffi (Except Status Nat) :=
  match request.handle with
  | none => pure (.error .errInvalidParam)
  | some handle => do
      let (status, written) ← perform (.ucpStreamRecvRequestTest handle)
      let length := written.getD 0
      pure ((statusToResult status).map fun _ => length)

def tagRecvTest (request : Request) : Ffi (Except Status (Option TagInfo)) :=
  match request.handle with
  | none => pure (.ok none)
  | some handle => do
      let (status, info) ← perform (.ucpTagRecvRequestTest handle)
      pure (mapTagRecvTestStatus status info)

/-- `Request::release`, which consumes the request: the emptied receiver is
dropped at the end. -/
def release (request : Request) : Ffi Unit := do
  match request.handle with
  | some handle => perform (.ucpRequestRelease handle)
  | none => pure ()
  drop { request with handle := none }

/-- `Request::cancel` returns the request it leaves behind. -/
def cancel (request : Request) (worker : Worker) : Ffi Request :=
  match request.handle with
  | some handle => do
      perform (.ucpRequestCancel worker.handle handle)
      perform (.ucpRequestFree handle)
      pure { request with handle := none }
  | none => pure request

def free (request : Request) : Ffi Unit := do
  match request.handle with
  | some handle => perform (.ucpRequestFree handle)
  | none => pure ()
  drop { request with handle := none }

-- every operation on a request that has given up its pointer is silent

@[simp]
theorem drop_none : drop ⟨none⟩ = .done () :=
  rfl

/-- What `checkFinished` returns for a status that UCX answered. -/
def finishedOfStatus (status : UcsStatus) : Except Status Bool :=
  if status.isErr then .error status else .ok (status == UcsStatus.ok)

theorem checkFinished_some (handle : NonNull) :
    checkFinished ⟨some handle⟩ =
      .issue (.ucpRequestCheckStatus handle) fun status : UcsStatus =>
        .done (finishedOfStatus status) := by
  refine congrArg (Program.issue (Call.ucpRequestCheckStatus handle)) ?_
  funext (status : UcsStatus)
  change (if statusPtrIsErr (statusWord status) then
      Program.done (Except.error (statusFromPtr (statusWord status)))
    else Program.done (Except.ok (status == UcsStatus.ok))) = _
  rw [finishedOfStatus, statusPtrIsErr_statusWord]
  cases isErr : status.isErr with
  | false => rfl
  | true => simp only [if_true, statusFromPtr_statusWord isErr]

@[simp]
theorem free_some (handle : NonNull) :
    free ⟨some handle⟩ = .issue (.ucpRequestFree handle) fun _ => .done () :=
  rfl

end Request

/-- `status_ptr_to_result` of a release build. -/
def statusPtrToResult (ptr : Word) : Except Status (Option Request) :=
  if statusPtrIsErr ptr then .error (statusFromPtr ptr)
  else if ptr ≤ statusWord .inProgress then .ok none
  else .ok (Request.new ptr)

/-- A request that comes back from a status pointer is live. -/
theorem request_of_statusPtrToResult {ptr : Word} {request : Request}
    (posted : statusPtrToResult ptr = .ok (some request)) :
    ∃ handle, request = ⟨some handle⟩ := by
  unfold statusPtrToResult at posted
  split at posted
  · cases posted
  · split at posted
    · cases posted
    · obtain ⟨handle, _, made⟩ := Option.map_eq_some_iff.mp (Except.ok.inj posted)
      exact ⟨handle, made.symm⟩

namespace Worker

/-- The bound of every progress loop of the wrapper. -/
def maxRounds : Nat := 1000000

def waitRequest (worker : Worker) (request : Request) : Ffi (Except Status Bool) :=
  forRounds
    (do
      match ← request.checkFinished with
      | .ok true => pure (some (.ok true))
      | .ok false =>
          let _ ← worker.progress
          pure none
      | .error error => pure (some (.error error)))
    (pure (.ok false)) maxRounds

def cancelRequest (worker : Worker) (request : Request) : Ffi Unit :=
  match request.handle with
  | some handle => perform (.ucpRequestCancel worker.handle handle)
  | none => pure ()

def flush (worker : Worker) (params : RequestParam) :
    Ffi (Except Status (Option Request)) := do
  let ptr ← perform (.ucpWorkerFlushNbx worker.handle params.handle)
  pure (statusPtrToResult ptr)

end Worker

end UcxRs
