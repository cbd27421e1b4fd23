import UcxRs.InteractionProgram
import UcxRs.UcpBlocks

/-!
# The calls that leave the wrapper

The safe wrapper reaches the outside in three ways: through the C functions of
UCP, through the liveness flag that a worker shares with its endpoints and
remote keys, and by aborting the process.  Each is a constructor of `Call`,
with the arguments that the source passes; `Answer` is what comes back,
out-parameters included.  The functions of the wrapper are programs over these
calls.
-/

namespace UcxRs

/-- What the wrapper does outside itself. -/
inductive Call where
  | ucpRequestCheckStatus (request : NonNull)
  | ucpRequestIsCompleted (request : NonNull)
  | ucpRequestTest (request : NonNull)
  | ucpStreamRecvRequestTest (request : NonNull)
  | ucpTagRecvRequestTest (request : NonNull)
  | ucpRequestCancel (worker : WorkerHandle) (request : NonNull)
  | ucpRequestFree (request : NonNull)
  | ucpRequestRelease (request : NonNull)
  | ucpRequestAlloc (worker : WorkerHandle)
  | ucpWorkerProgress (worker : WorkerHandle)
  | ucpWorkerFlushNbx (worker : WorkerHandle) (param : UcpRequestParam)
  | ucpWorkerDestroy (worker : WorkerHandle)
  | ucpTagSendNbx (ep : EpHandle) (buffer : Buffer) (tag : Word)
      (param : UcpRequestParam)
  | ucpTagSendSyncNbx (ep : EpHandle) (buffer : Buffer) (tag : Word)
      (param : Option UcpRequestParam)
  | ucpTagRecvNbx (worker : WorkerHandle) (buffer : Buffer) (tag mask : Word)
      (param : UcpRequestParam)
  | ucpTagProbeNb (worker : WorkerHandle) (tag mask : Word) (remove : Bool)
  | ucpTagMsgRecvNbx (worker : WorkerHandle) (buffer : Buffer)
      (message : MessagePointer) (param : UcpRequestParam)
  | ucpTagMsgRecvNb (worker : WorkerHandle) (buffer : Buffer) (datatype : Word)
      (message : MessagePointer)
  | ucpStreamSendNbx (ep : EpHandle) (buffer : Buffer) (param : UcpRequestParam)
  | ucpStreamRecvNbx (ep : EpHandle) (buffer : Buffer) (param : UcpRequestParam)
  | ucpStreamWorkerPoll (worker : WorkerHandle) (maxEps : Nat) (flags : BitVec 32)
  | ucpAmSendNbx (ep : EpHandle) (id : BitVec 32) (header data : Buffer)
      (param : UcpRequestParam)
  | ucpAmRecvDataNbx (worker : WorkerHandle) (dataDesc : Word) (buffer : Buffer)
      (param : Option UcpRequestParam)
  | ucpPutNbx (ep : EpHandle) (buffer : Buffer) (remoteAddr : Word)
      (rkey : RkeyHandle) (param : UcpRequestParam)
  | ucpGetNbx (ep : EpHandle) (buffer : Buffer) (remoteAddr : Word)
      (rkey : RkeyHandle) (param : UcpRequestParam)
  | ucpAtomicOpNbx (ep : EpHandle) (opcode : UcpAtomicOp)
      (operand : List (BitVec 8)) (count : Nat) (remoteAddr : Word)
      (rkey : RkeyHandle) (param : UcpRequestParam)
  | ucpEpCreate (worker : WorkerHandle) (params : UcpEpParams)
  | ucpEpFlushNbx (ep : EpHandle) (param : UcpRequestParam)
  | ucpEpModifyNb (ep : EpHandle) (params : UcpEpParams)
  | ucpEpCloseNbx (ep : EpHandle) (param : UcpRequestParam)
  | ucpEpDestroy (ep : EpHandle)
  | ucpDisconnectNb (ep : EpHandle)
  | ucpEpRkeyUnpack (ep : EpHandle) (payload : List (BitVec 8))
  | ucpRkeyCompare (worker : WorkerHandle) (rkey1 rkey2 : RkeyHandle)
      (params : UcpRkeyCompareParams)
  | ucpRkeyDestroy (rkey : RkeyHandle)
  | ucpListenerReject (listener : ListenerHandle) (request : ConnRequestPointer)
  | ucpListenerDestroy (listener : ListenerHandle)
  | ucpListenerQuery (listener : ListenerHandle) (attr : UcpListenerAttr)
  | ucpConnRequestQuery (request : ConnRequestPointer) (attr : UcpConnRequestAttr)
  | ucpWorkerFence (worker : WorkerHandle)
  | ucpWorkerArm (worker : WorkerHandle)
  | ucpWorkerWait (worker : WorkerHandle)
  | ucpWorkerSignal (worker : WorkerHandle)
  | ucpWorkerGetEfd (worker : WorkerHandle)
  | ucpWorkerGetAddress (worker : WorkerHandle)
  | ucpWorkerReleaseAddress (worker : WorkerHandle) (address : AddressPointer)
  | ucpWorkerQuery (worker : WorkerHandle) (attr : UcpWorkerAttr)
  | ucpWorkerSetAmRecvHandler (worker : WorkerHandle) (param : UcpAmHandlerParam)
  | ucpEpQuery (ep : EpHandle) (attr : UcpEpAttr)
  | ucpStreamRecvDataNb (ep : EpHandle)
  | ucpStreamDataRelease (ep : EpHandle) (data : Word)
  | ucpMemMap (context : ContextHandle) (params : UcpMemMapParams)
  | ucpMemUnmap (context : ContextHandle) (memh : MemPointer)
  | ucpMemQuery (memh : MemPointer) (attr : UcpMemAttr)
  | ucpMemAdvise (context : ContextHandle) (memh : MemPointer)
      (params : UcpMemAdviseParams)
  | ucpMemhPack (memh : MemPointer) (params : UcpMemhPackParams)
  | ucpMemhBufferRelease (buffer : Word)
  | ucpRkeyPack (context : ContextHandle) (memh : MemPointer)
  | ucpRkeyBufferRelease (buffer : Word)
  | ucpInitVersion (apiMajor apiMinor : BitVec 32) (params : UcpParams)
      (config : ConfigHandle)
  | loadAlive (flag : AliveFlag)
  | storeAlive (flag : AliveFlag) (value : Bool)
  | abort
  deriving DecidableEq, Repr

/-- The type of the answer to a call.  A status query with an out-parameter
answers with the status and what the out-parameter holds afterwards; a stream
call answers with the length it wrote, if it wrote one, and a stream poll with
its count and the entries that it wrote.  A worker address and a packed remote
key come with the bytes behind their pointers. -/
abbrev Answer : Call → Type
  | .ucpRequestCheckStatus _ => UcsStatus
  | .ucpRequestIsCompleted _ => Int
  | .ucpRequestTest _ => UcsStatus × UcpTagRecvInfo
  | .ucpStreamRecvRequestTest _ => UcsStatus × Option Nat
  | .ucpTagRecvRequestTest _ => UcsStatus × UcpTagRecvInfo
  | .ucpRequestCancel _ _ => Unit
  | .ucpRequestFree _ => Unit
  | .ucpRequestRelease _ => Unit
  | .ucpRequestAlloc _ => Word
  | .ucpWorkerProgress _ => Nat
  | .ucpWorkerFlushNbx _ _ => Word
  | .ucpWorkerDestroy _ => Unit
  | .ucpTagSendNbx _ _ _ _ => Word
  | .ucpTagSendSyncNbx _ _ _ _ => Word
  | .ucpTagRecvNbx _ _ _ _ _ => Word
  | .ucpTagProbeNb _ _ _ _ => MessagePointer × UcpTagRecvInfo
  | .ucpTagMsgRecvNbx _ _ _ _ => Word
  | .ucpTagMsgRecvNb _ _ _ _ => Word
  | .ucpStreamSendNbx _ _ _ => Word
  | .ucpStreamRecvNbx _ _ _ => Word × Option Nat
  | .ucpStreamWorkerPoll _ _ _ => BitVec 64 × (Nat → Option UcpStreamPollEp)
  | .ucpAmSendNbx _ _ _ _ _ => Word
  | .ucpAmRecvDataNbx _ _ _ _ => Word
  | .ucpPutNbx _ _ _ _ _ => Word
  | .ucpGetNbx _ _ _ _ _ => Word
  | .ucpAtomicOpNbx _ _ _ _ _ _ _ => Word
  | .ucpEpCreate _ _ => UcsStatus × EpHandle
  | .ucpEpFlushNbx _ _ => Word
  | .ucpEpModifyNb _ _ => Word
  | .ucpEpCloseNbx _ _ => Word
  | .ucpEpDestroy _ => Unit
  | .ucpDisconnectNb _ => Word
  | .ucpEpRkeyUnpack _ _ => UcsStatus × RkeyHandle
  | .ucpRkeyCompare _ _ _ _ => UcsStatus × BitVec 32
  | .ucpRkeyDestroy _ => Unit
  | .ucpListenerReject _ _ => UcsStatus
  | .ucpListenerDestroy _ => Unit
  | .ucpListenerQuery _ _ => UcsStatus × UcpListenerAttr
  | .ucpConnRequestQuery _ _ => UcsStatus × UcpConnRequestAttr
  | .ucpWorkerFence _ => UcsStatus
  | .ucpWorkerArm _ => UcsStatus
  | .ucpWorkerWait _ => UcsStatus
  | .ucpWorkerSignal _ => UcsStatus
  | .ucpWorkerGetEfd _ => UcsStatus × BitVec 32
  | .ucpWorkerGetAddress _ => UcsStatus × AddressPointer × List (BitVec 8)
  | .ucpWorkerReleaseAddress _ _ => Unit
  | .ucpWorkerQuery _ _ => UcsStatus × UcpWorkerAttr
  | .ucpWorkerSetAmRecvHandler _ _ => UcsStatus
  | .ucpEpQuery _ _ => UcsStatus × UcpEpAttr
  | .ucpStreamRecvDataNb _ => Word × Option Nat
  | .ucpStreamDataRelease _ _ => Unit
  | .ucpMemMap _ _ => UcsStatus × MemPointer
  | .ucpMemUnmap _ _ => UcsStatus
  | .ucpMemQuery _ _ => UcsStatus × UcpMemAttr
  | .ucpMemAdvise _ _ _ => UcsStatus
  | .ucpMemhPack _ _ => UcsStatus × Word × Nat
  | .ucpMemhBufferRelease _ => Unit
  | .ucpRkeyPack _ _ => UcsStatus × Word × List (BitVec 8)
  | .ucpRkeyBufferRelease _ => Unit
  | .ucpInitVersion _ _ _ _ => UcsStatus × ContextHandle
  | .loadAlive _ => Bool
  | .storeAlive _ _ => Unit
  | .abort => Empty

/-- Wrapper code: a program over the calls above. -/
abbrev Ffi (Result : Type) := Interaction.Program Call Answer Result

/-- Issue one call. -/
abbrev perform (call : Call) : Ffi (Answer call) :=
  Interaction.Program.call call

end UcxRs
