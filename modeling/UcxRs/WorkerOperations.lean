import UcxRs.EndpointParams
import UcxRs.LockedThreads

/-!
# Worker operations and their serialised form

The remaining operations of `Worker` that `MtWorker` offers, the packed worker
address, and `MtWorker` itself.  An `MtWorker` method is code of a thread: it
locks the mutex that the clones share, runs the worker's method and drops the
guard.  `wait_request` alone is a loop over two methods of its own.
-/

namespace UcxRs

open Interaction.Program (forRounds)
open LockedThreads (Code)
open UnwindingMutex (Completion)

/-- The bytes stand behind the handle; the field `size` is their number. -/
structure WorkerAddress where
  handle : AddressPointer
  bytes : List (BitVec 8)
  parent : Worker
  deriving DecidableEq, Repr

namespace WorkerAddress

def toSlice (address : WorkerAddress) : List (BitVec 8) :=
  address.bytes

def toVec (address : WorkerAddress) : List (BitVec 8) :=
  address.toSlice

/-- `Drop for WorkerAddress`. -/
def drop (address : WorkerAddress) : Ffi Unit :=
  perform (.ucpWorkerReleaseAddress address.parent.handle address.handle)

end WorkerAddress

namespace Worker

def packAddress (worker : Worker) : Ffi (Except Status WorkerAddress) := do
  let (status, address, bytes) ← perform (.ucpWorkerGetAddress worker.handle)
  match statusToResult status with
  | .ok () => pure (.ok ⟨address, bytes, worker⟩)
  | .error error => pure (.error error)

def fence (worker : Worker) : Ffi (Except Status Unit) :=
  statusToResult <$> perform (.ucpWorkerFence worker.handle)

def arm (worker : Worker) : Ffi (Except Status Unit) :=
  statusToResult <$> perform (.ucpWorkerArm worker.handle)

def wait (worker : Worker) : Ffi (Except Status Unit) :=
  statusToResult <$> perform (.ucpWorkerWait worker.handle)

def signal (worker : Worker) : Ffi (Except Status Unit) :=
  statusToResult <$> perform (.ucpWorkerSignal worker.handle)

def getEfd (worker : Worker) : Ffi (Except Status (BitVec 32)) := do
  let (status, fd) ← perform (.ucpWorkerGetEfd worker.handle)
  pure ((statusToResult status).map fun _ => fd)

end Worker

/-- The worker behind the mutex.  A clone shares the mutex, so all clones are
this value. -/
structure MtWorker where
  worker : Worker
  deriving DecidableEq, Repr

namespace MtWorker

variable {Result : Type}

/-- `self.lock()` and one operation on the guard, which is dropped at the end of
the statement. -/
def holdingLock (mt : MtWorker) (operation : Worker → Ffi Result) : Code Answer Result :=
  Code.locked (operation mt.worker)

/-- `MtWorker::with_worker`.  The operation may panic; it has no access to the
mutex. -/
def withWorker (mt : MtWorker) (operation : Worker → Ffi (Completion Result)) :
    Code Answer (Completion Result) :=
  Code.lockedUnwinding (operation mt.worker)

def progress (mt : MtWorker) : Code Answer Bool :=
  mt.holdingLock Worker.progress

def flush (mt : MtWorker) (params : RequestParam) :
    Code Answer (Except Status (Option Request)) :=
  mt.holdingLock fun worker => worker.flush params

def fence (mt : MtWorker) : Code Answer (Except Status Unit) :=
  mt.holdingLock Worker.fence

def wait (mt : MtWorker) : Code Answer (Except Status Unit) :=
  mt.holdingLock Worker.wait

def arm (mt : MtWorker) : Code Answer (Except Status Unit) :=
  mt.holdingLock Worker.arm

def signal (mt : MtWorker) : Code Answer (Except Status Unit) :=
  mt.holdingLock Worker.signal

def getEfd (mt : MtWorker) : Code Answer (Except Status (BitVec 32)) :=
  mt.holdingLock Worker.getEfd

def cancelRequest (mt : MtWorker) (request : Request) : Code Answer Unit :=
  mt.holdingLock fun worker => worker.cancelRequest request

/-- `MtWorker::wait_request` checks the request without the mutex. -/
def waitRequest (mt : MtWorker) (request : Request) : Code Answer (Except Status Bool) :=
  forRounds
    (do
      match ← Code.lift request.checkFinished with
      | .ok true => pure (some (.ok true))
      | .ok false =>
          let _ ← mt.progress
          pure none
      | .error error => pure (some (.error error)))
    (pure (.ok false)) 1000000

def createEp (mt : MtWorker) (epParams : Ep.Params) : Code Answer (Except Status Ep) :=
  mt.holdingLock fun worker => worker.createEp epParams

/-- `MtWorker::pack_address` copies the address and drops it before the guard. -/
def packAddress (mt : MtWorker) : Code Answer (Except Status (List (BitVec 8))) :=
  mt.holdingLock fun worker => do
    match ← worker.packAddress with
    | .ok address => do
        let bytes := address.toVec
        address.drop
        pure (.ok bytes)
    | .error error => pure (.error error)

-- the mutex aside, `MtWorker` does what its worker does

@[simp]
theorem erase_holdingLock (mt : MtWorker) (operation : Worker → Ffi Result) :
    Code.erase (mt.holdingLock operation) = operation mt.worker :=
  Code.erase_locked _

theorem erase_waitRequest (mt : MtWorker) (request : Request) :
    Code.erase (mt.waitRequest request) = mt.worker.waitRequest request := by
  unfold waitRequest Worker.waitRequest
  rw [Code.erase_forRounds, Worker.maxRounds]
  congr 1
  rw [Code.erase_bind, Code.erase_lift]
  refine congrArg _ (funext fun finished => ?_)
  rcases finished with error | _ | _
  · rfl
  · change Code.erase (mt.progress >>= fun _ => _) = _
    rw [Code.erase_bind, progress, erase_holdingLock]
    rfl
  · rfl

end MtWorker

end UcxRs
