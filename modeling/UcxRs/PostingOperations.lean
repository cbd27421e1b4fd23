import UcxRs.Endpoint
import UcxRs.RequestGuards

/-!
# Operations that post a request

The wrapper's tag, stream, active-message and RMA operations.  Each hands its
arguments to one UCX call and decodes the returned status pointer: an error, an
operation that completed at once, or a request.  The guarded operations wrap
the request together with the worker they were given; in a release build
nothing checks that it is the worker of the endpoint.
-/

namespace UcxRs

structure MessageHandle where
  handle : MessagePointer
  info : TagInfo
  removed : Bool
  deriving DecidableEq, Repr

namespace Ep

def tagSend (ep : Ep) (worker : Worker) (data : Buffer) (tag : Word)
    (param : RequestParam) : Ffi (Except Status (Option TagRequest)) := do
  let ptr ← perform (.ucpTagSendNbx ep.handle data tag param.handle)
  pure ((statusPtrToResult ptr).map fun request =>
    request.map fun request => { worker := worker, handle := request.handle })

/-- `Ep::tag_send_sync`; an operation that completed at once is an inert
request. -/
def tagSendSync (ep : Ep) (data : Buffer) (tag : Word) : Ffi (Except Status Request) := do
  let ptr ← perform (.ucpTagSendSyncNbx ep.handle data tag none)
  pure ((statusPtrToResult ptr).map fun request => request.getD ⟨none⟩)

def tagSendPtr (ep : Ep) (data : Buffer) (tag : Word) (param : RequestParam) :
    Ffi (Except Status (Option Request)) := do
  let ptr ← perform (.ucpTagSendNbx ep.handle data tag param.handle)
  pure (statusPtrToResult ptr)

end Ep

namespace Worker

/-- `Worker::tag_recv`, which receives on `receiver` and guards with `worker`. -/
def tagRecv (receiver worker : Worker) (data : Buffer) (tag mask : Word)
    (param : RequestParam) : Ffi (Except Status TagRequest) := do
  let ptr ← perform (.ucpTagRecvNbx receiver.handle data tag mask param.handle)
  pure ((statusPtrToResult ptr).map fun request =>
    { worker := worker, handle := request.bind fun request => request.handle })

def tagRecvPtr (worker : Worker) (data : Buffer) (tag mask : Word)
    (param : RequestParam) : Ffi (Except Status (Option Request)) := do
  let ptr ← perform (.ucpTagRecvNbx worker.handle data tag mask param.handle)
  pure (statusPtrToResult ptr)

def tagProbe (worker : Worker) (tag tagMask : Word) (remove : Bool) :
    Ffi (Option MessageHandle) := do
  let (handle, info) ← perform (.ucpTagProbeNb worker.handle tag tagMask remove)
  if handle.address ≠ 0 then
    pure (some { handle := handle, info := .fromFfi info, removed := remove })
  else pure none

/-- `Worker::tag_msg_recv`.  `none` is the panic on a message that the probe
left in the queue. -/
def tagMsgRecv (worker : Worker) (data : Buffer) (message : MessageHandle)
    (param : RequestParam) : Ffi (Option (Except Status (Option Request))) :=
  if !message.removed then pure none
  else do
    let ptr ← perform (.ucpTagMsgRecvNbx worker.handle data message.handle param.handle)
    pure (some (statusPtrToResult ptr))

end Worker

def tagSendSyncNbx (ep : Ep) (buffer : Buffer) (tag : Word) : Ffi Request := do
  let ptr ← perform (.ucpTagSendSyncNbx ep.handle buffer tag none)
  pure (.fromRaw ptr)

def tagMsgRecvNb (worker : Worker) (buffer : Buffer) (datatype : Word)
    (message : MessageHandle) : Ffi Request := do
  let ptr ← perform (.ucpTagMsgRecvNb worker.handle buffer datatype message.handle)
  pure (.fromRaw ptr)

namespace Ep

def streamSend (ep : Ep) (worker : Worker) (data : Buffer) (param : RequestParam) :
    Ffi (Except Status (Option StreamRequest)) := do
  let ptr ← perform (.ucpStreamSendNbx ep.handle data param.handle)
  pure ((statusPtrToResult ptr).map fun request =>
    request.map fun request => { request := some request, worker := worker, length := 0 })

/-- `Ep::stream_recv`; the length cell holds zero until UCX writes it. -/
def streamRecv (ep : Ep) (worker : Worker) (buf : Buffer) (param : RequestParam) :
    Ffi (Except Status StreamRequest) := do
  let (ptr, written) ← perform (.ucpStreamRecvNbx ep.handle buf param.handle)
  let length := written.getD 0
  pure ((statusPtrToResult ptr).map fun request =>
    { request := request, worker := worker, length := length })

end Ep

/-- `request::status_ptr_is_err`, the copy of the predicate that the stream
operations use. -/
def requestStatusPtrIsErr (word : Word) : Bool :=
  statusWord .errLast ≤ word

/-- A `StreamData` borrows its endpoint; it keeps the handle here. -/
structure StreamData where
  ep : EpHandle
  data : NonNull
  length : Nat
  deriving DecidableEq, Repr

/-- `Ep::stream_recv_data`, which classifies the pointer by itself. -/
def Ep.streamRecvData (ep : Ep) : Ffi (Except Status (Option StreamData)) := do
  let (ptr, written) ← perform (.ucpStreamRecvDataNb ep.handle)
  let length := written.getD 0
  if null : ptr = 0 then pure (.ok none)
  else if requestStatusPtrIsErr ptr then pure (.error (statusFromPtr ptr))
  else pure (.ok (some { ep := ep.handle, data := ⟨ptr, null⟩, length := length }))

/-- `Drop for StreamData`. -/
def StreamData.drop (data : StreamData) : Ffi Unit :=
  perform (.ucpStreamDataRelease data.ep data.data.val)

/-- `stream_recv_data_nb`, which returns the bare pointer. -/
def streamRecvDataNb (ep : Ep) : Ffi (Except Status (Option Word)) := do
  let (ptr, _length) ← perform (.ucpStreamRecvDataNb ep.handle)
  if ptr = 0 then pure (.ok none)
  else if requestStatusPtrIsErr ptr then pure (.error (statusFromPtr ptr))
  else pure (.ok (some ptr))

def streamSendNbx (ep : Ep) (buffer : Buffer) (param : RequestParam) :
    Ffi (Except Status (Option Request)) := do
  let ptr ← perform (.ucpStreamSendNbx ep.handle buffer param.handle)
  pure (statusPtrToResult ptr)

def streamRecvNbx (ep : Ep) (buffer : Buffer) (param : RequestParam) :
    Ffi (Except Status (Option Request)) := do
  let (ptr, _length) ← perform (.ucpStreamRecvNbx ep.handle buffer param.handle)
  pure (statusPtrToResult ptr)

def Ep.amSend (ep : Ep) (id : BitVec 32) (header data : Buffer) (params : RequestParam) :
    Ffi (Except Status (Option Request)) := do
  let ptr ← perform (.ucpAmSendNbx ep.handle id header data params.handle)
  pure (statusPtrToResult ptr)

def Worker.amRecvData (worker : Worker) (dataDesc : NonNull) (buffer : Buffer)
    (params : RequestParam) : Ffi (Except Status (Option Request)) := do
  let ptr ← perform (.ucpAmRecvDataNbx worker.handle dataDesc.val buffer (some params.handle))
  pure (statusPtrToResult ptr)

def amRecvDataNbx (worker : Worker) (dataDesc : Word) (buffer : Buffer) : Ffi Request := do
  let ptr ← perform (.ucpAmRecvDataNbx worker.handle dataDesc buffer none)
  pure (.fromRaw ptr)

namespace Ep

/-- `Ep::rma_put`, and `Ep::rma_put_ptr` on a bare address. -/
def rmaPut (ep : Ep) (buffer : Buffer) (remoteAddr : Word) (rkey : RemoteKey)
    (param : RequestParam) : Ffi (Except Status (Option Request)) := do
  let ptr ← perform (.ucpPutNbx ep.handle buffer remoteAddr rkey.handle param.handle)
  pure (statusPtrToResult ptr)

/-- `Ep::rma_get`, and `Ep::rma_get_ptr` on a bare address. -/
def rmaGet (ep : Ep) (buffer : Buffer) (remoteAddr : Word) (rkey : RemoteKey)
    (param : RequestParam) : Ffi (Except Status (Option Request)) := do
  let ptr ← perform (.ucpGetNbx ep.handle buffer remoteAddr rkey.handle param.handle)
  pure (statusPtrToResult ptr)

end Ep

def putNbx (ep : Ep) (buffer : Buffer) (remoteAddr : Word) (rkey : RemoteKey)
    (param : RequestParam) : Ffi (Except Status (Option Request)) :=
  ep.rmaPut buffer remoteAddr rkey param

def getNbx (ep : Ep) (buffer : Buffer) (remoteAddr : Word) (rkey : RemoteKey)
    (param : RequestParam) : Ffi (Except Status (Option Request)) :=
  ep.rmaGet buffer remoteAddr rkey param

def requestAlloc (worker : Worker) : Ffi Request := do
  let ptr ← perform (.ucpRequestAlloc worker.handle)
  pure (.fromRaw ptr)

end UcxRs
