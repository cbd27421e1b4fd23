import UcxRs.Request

/-!
# Endpoints, remote keys and the end of a worker

An endpoint and a remote key share the liveness flag of the worker they were
created on.  Neither borrows the worker, so the flag is all that a late cleanup
can consult.  This file models the teardown paths: those of `Ep`, the drop of a
`RemoteKey` and the drop of a `Worker`.
-/

namespace UcxRs

open Interaction.Program (forRounds)

structure Ep where
  handle : EpHandle
  workerAlive : AliveFlag
  deriving DecidableEq, Repr

structure RemoteKey where
  handle : RkeyHandle
  workerAlive : AliveFlag
  deriving DecidableEq, Repr

structure ModifyParams where
  handle : UcpEpParams
  deriving DecidableEq, Repr

namespace Ep

def flush (ep : Ep) (params : RequestParam) : Ffi (Except Status (Option Request)) := do
  let ptr ← perform (.ucpEpFlushNbx ep.handle params.handle)
  pure (statusPtrToResult ptr)

def modify (ep : Ep) (params : ModifyParams) : Ffi (Except Status (Option Request)) := do
  let ptr ← perform (.ucpEpModifyNb ep.handle params.handle)
  pure (statusPtrToResult ptr)

/-- `Ep::destroy`; the endpoint is never dropped (`ManuallyDrop`). -/
def destroy (ep : Ep) : Ffi Unit := do
  let alive ← perform (.loadAlive ep.workerAlive)
  if alive then perform (.ucpEpDestroy ep.handle) else pure ()

/-- `Ep::disconnect_nb`; the endpoint is never dropped (`ManuallyDrop`). -/
def disconnectNb (ep : Ep) : Ffi (Except Status (Option Request)) := do
  let alive ← perform (.loadAlive ep.workerAlive)
  if !alive then pure (.ok none)
  else do
    let ptr ← perform (.ucpDisconnectNb ep.handle)
    let result := statusPtrToResult ptr
    match result with
    | .error _ => perform (.ucpEpDestroy ep.handle)
    | .ok _ => pure ()
    pure result

/-- The wait of `Ep::close`: the request is freed when the close succeeded, and
forgotten on an error and after the last round. -/
def awaitClose (request : Request) (worker : Worker) : Ffi (Except Status Unit) :=
  forRounds
    (do
      match ← request.checkFinished with
      | .ok true =>
          request.free
          pure (some (.ok ()))
      | .ok false =>
          let _ ← worker.progress
          pure none
      | .error error => pure (some (.error error)))
    (pure (.error .errTimedOut)) 1000000

/-- `Ep::close`, which sets the flags of its parameter block but not their mask
bit; the endpoint is never dropped (`ManuallyDrop`). -/
def close (ep : Ep) (worker : Worker) (flags : BitVec 32) : Ffi (Except Status Unit) := do
  let param := { UcpRequestParam.zeroed with flags := flags }
  let ptr ← perform (.ucpEpCloseNbx ep.handle param)
  match statusPtrToResult ptr with
  | .error error => pure (.error error)
  | .ok (some request) => awaitClose request worker
  | .ok none => pure (.ok ())

/-- `Drop for Ep`; a close that is still in progress is forgotten. -/
def drop (ep : Ep) : Ffi Unit := do
  let alive ← perform (.loadAlive ep.workerAlive)
  if !alive then pure ()
  else do
    let ptr ← perform (.ucpEpCloseNbx ep.handle .zeroed)
    match statusPtrToResult ptr with
    | .ok (some _request) => pure ()
    | .ok none => pure ()
    | .error _ => pure ()

end Ep

/-- `unframe_rkey_payload`: a little-endian length of four bytes, then exactly
that many bytes. -/
def unframeRkeyPayload (buffer : List (BitVec 8)) :
    Except Status (List (BitVec 8)) :=
  match buffer with
  | byte0 :: byte1 :: byte2 :: byte3 :: payload =>
      let payloadLen := (byte3 ++ byte2 ++ byte1 ++ byte0 : BitVec 32).toNat
      if payloadLen ≠ payload.length then .error .errInvalidParam
      else .ok payload
  | _ => .error .errInvalidParam

namespace RemoteKey

def unpack (ep : Ep) (rkeyBuffer : List (BitVec 8)) : Ffi (Except Status RemoteKey) :=
  match unframeRkeyPayload rkeyBuffer with
  | .error error => pure (.error error)
  | .ok payload => do
      let (status, rkey) ← perform (.ucpEpRkeyUnpack ep.handle payload)
      pure ((statusToResult status).map fun _ => ⟨rkey, ep.workerAlive⟩)

/-- `RemoteKey::compare`; the flags establish that both keys came from the live
worker. -/
def compare (rkey other : RemoteKey) (worker : Worker) : Ffi (Except Status Bool) := do
  let alive ← perform (.loadAlive rkey.workerAlive)
  if !alive then pure (.error .errInvalidParam)
  else do
    let otherAlive ← perform (.loadAlive other.workerAlive)
    if !otherAlive || rkey.workerAlive != other.workerAlive ||
        rkey.workerAlive != worker.alive then
      pure (.error .errInvalidParam)
    else do
      let (status, result) ←
        perform (.ucpRkeyCompare worker.handle rkey.handle other.handle ⟨0⟩)
      pure ((statusToResult status).map fun _ => result == 0)

/-- `Drop for RemoteKey`. -/
def drop (rkey : RemoteKey) : Ffi Unit :=
  if rkey.handle.address ≠ 0 then perform (.ucpRkeyDestroy rkey.handle) else pure ()

end RemoteKey

/-- The loop of `Drop for Worker` on a pending flush. -/
def Worker.awaitFlush (worker : Worker) (request : Request) : Ffi Unit :=
  forRounds
    (do
      match ← request.checkFinished with
      | .ok true => pure (some ())
      | .error _ => pure (some ())
      | .ok false =>
          let _ ← worker.progress
          pure none)
    (pure ()) 1000000

/-- `Drop for Worker`; the flush request is dropped, finished or not. -/
def Worker.drop (worker : Worker) : Ffi Unit := do
  perform (.storeAlive worker.alive false)
  match ← worker.flush RequestParamBuilder.new.build with
  | .ok (some request) =>
      worker.awaitFlush request
      request.drop
  | .ok none => pure ()
  | .error _ => pure ()
  perform (.ucpWorkerDestroy worker.handle)

end UcxRs
