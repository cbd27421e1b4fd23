import UcxRs.EndpointParams

/-!
# Builders of parameter blocks

Beside those of requests and endpoints, eight builders fill a block of UCX
parameters.  They work alike: `new` zeroes the block, a setter writes its field
and adds the field's bit to a mask, and `build` hands out the block with the
mask in it.  The builders of contexts and workers also own a name, whose pointer
is written into the block when it is built.
-/

namespace UcxRs

/-- The error of a name with an interior zero byte. -/
structure NulError where
  deriving DecidableEq, Repr

namespace UcpMemMapParam

-- `ucp_mem_map_params_field`

def fieldAddress : BitVec 64 := 1
def fieldLength : BitVec 64 := 2
def fieldFlags : BitVec 64 := 4
def fieldProt : BitVec 64 := 8
def fieldMemoryType : BitVec 64 := 16
def fieldExportedMemhBuffer : BitVec 64 := 32

end UcpMemMapParam

structure MemMapParams where
  handle : UcpMemMapParams
  deriving DecidableEq, Repr

structure MemMapParamsBuilder where
  uninitHandle : UcpMemMapParams
  fieldMask : BitVec 64
  deriving DecidableEq, Repr

namespace MemMapParamsBuilder

def new : MemMapParamsBuilder where
  uninitHandle := .zeroed
  fieldMask := 0

def address (builder : MemMapParamsBuilder) (addr : Word) : MemMapParamsBuilder where
  fieldMask := builder.fieldMask ||| UcpMemMapParam.fieldAddress
  uninitHandle := { builder.uninitHandle with address := addr }

def length (builder : MemMapParamsBuilder) (len : Nat) : MemMapParamsBuilder where
  fieldMask := builder.fieldMask ||| UcpMemMapParam.fieldLength
  uninitHandle := { builder.uninitHandle with length := len }

def addressSlice (builder : MemMapParamsBuilder) (slice : Buffer) : MemMapParamsBuilder :=
  (builder.address slice.address).length slice.length

def flags (builder : MemMapParamsBuilder) (flags : BitVec 32) : MemMapParamsBuilder where
  fieldMask := builder.fieldMask ||| UcpMemMapParam.fieldFlags
  uninitHandle := { builder.uninitHandle with flags := flags }

def prot (builder : MemMapParamsBuilder) (prot : BitVec 32) : MemMapParamsBuilder where
  fieldMask := builder.fieldMask ||| UcpMemMapParam.fieldProt
  uninitHandle := { builder.uninitHandle with prot := prot }

def memoryType (builder : MemMapParamsBuilder) (memType : MemoryType) :
    MemMapParamsBuilder where
  fieldMask := builder.fieldMask ||| UcpMemMapParam.fieldMemoryType
  uninitHandle := { builder.uninitHandle with memoryType := memType.toFfi }

def exportedMemhBuffer (builder : MemMapParamsBuilder) (buffer : Word) :
    MemMapParamsBuilder where
  fieldMask := builder.fieldMask ||| UcpMemMapParam.fieldExportedMemhBuffer
  uninitHandle := { builder.uninitHandle with exportedMemhBuffer := buffer }

def build (builder : MemMapParamsBuilder) : MemMapParams where
  handle := { builder.uninitHandle with fieldMask := builder.fieldMask }

end MemMapParamsBuilder

namespace UcpMemAdviseParam

-- `ucp_mem_advise_params_field`

def fieldAddress : BitVec 64 := 1
def fieldLength : BitVec 64 := 2
def fieldAdvice : BitVec 64 := 4

end UcpMemAdviseParam

inductive MemAdvice where
  | normal
  | willNeed
  deriving DecidableEq, Repr

def MemAdvice.toFfi : MemAdvice → UcpMemAdvice
  | normal => .normal
  | willNeed => .willNeed

structure MemAdviseParams where
  handle : UcpMemAdviseParams
  deriving DecidableEq, Repr

structure MemAdviseParamsBuilder where
  uninitHandle : UcpMemAdviseParams
  fieldMask : BitVec 64
  deriving DecidableEq, Repr

namespace MemAdviseParamsBuilder

def new : MemAdviseParamsBuilder where
  uninitHandle := .zeroed
  fieldMask := 0

def address (builder : MemAdviseParamsBuilder) (addr : Word) : MemAdviseParamsBuilder where
  fieldMask := builder.fieldMask ||| UcpMemAdviseParam.fieldAddress
  uninitHandle := { builder.uninitHandle with address := addr }

def length (builder : MemAdviseParamsBuilder) (len : Nat) : MemAdviseParamsBuilder where
  fieldMask := builder.fieldMask ||| UcpMemAdviseParam.fieldLength
  uninitHandle := { builder.uninitHandle with length := len }

def advice (builder : MemAdviseParamsBuilder) (advice : MemAdvice) :
    MemAdviseParamsBuilder where
  fieldMask := builder.fieldMask ||| UcpMemAdviseParam.fieldAdvice
  uninitHandle := { builder.uninitHandle with advice := advice.toFfi }

def build (builder : MemAdviseParamsBuilder) : MemAdviseParams where
  handle := { builder.uninitHandle with fieldMask := builder.fieldMask }

end MemAdviseParamsBuilder

/-- `UCP_MEMH_PACK_PARAM_FIELD_FLAGS`. -/
def UcpMemhPackParam.fieldFlags : BitVec 64 := 1

structure MemhPackParams where
  handle : UcpMemhPackParams
  deriving DecidableEq, Repr

structure MemhPackParamsBuilder where
  uninitHandle : UcpMemhPackParams
  fieldMask : BitVec 64
  deriving DecidableEq, Repr

namespace MemhPackParamsBuilder

def new : MemhPackParamsBuilder where
  uninitHandle := .zeroed
  fieldMask := 0

def flags (builder : MemhPackParamsBuilder) (flags : BitVec 64) : MemhPackParamsBuilder where
  fieldMask := builder.fieldMask ||| UcpMemhPackParam.fieldFlags
  uninitHandle := { builder.uninitHandle with flags := flags }

def build (builder : MemhPackParamsBuilder) : MemhPackParams where
  handle := { builder.uninitHandle with fieldMask := builder.fieldMask }

end MemhPackParamsBuilder

namespace UcpAmHandlerParamField

-- `ucp_am_handler_param_field`

def fieldId : BitVec 64 := 1
def fieldFlags : BitVec 64 := 2
def fieldCb : BitVec 64 := 4
def fieldArg : BitVec 64 := 8

end UcpAmHandlerParamField

structure CbFlags where
  bits : BitVec 32
  deriving DecidableEq, Repr

structure HandlerParams where
  handle : UcpAmHandlerParam
  deriving DecidableEq, Repr

/-- `am::HandlerParamsBuilder`.  Its mask, the field `flags`, is called
`maskFlags` beside the setter of that name. -/
structure HandlerParamsBuilder where
  uninitHandle : UcpAmHandlerParam
  maskFlags : BitVec 64
  deriving DecidableEq, Repr

namespace HandlerParamsBuilder

def new : HandlerParamsBuilder where
  uninitHandle := .zeroed
  maskFlags := 0

def id (builder : HandlerParamsBuilder) (id : BitVec 32) : HandlerParamsBuilder where
  maskFlags := builder.maskFlags ||| UcpAmHandlerParamField.fieldId
  uninitHandle := { builder.uninitHandle with id := id }

def flags (builder : HandlerParamsBuilder) (flags : CbFlags) : HandlerParamsBuilder where
  maskFlags := builder.maskFlags ||| UcpAmHandlerParamField.fieldFlags
  uninitHandle := { builder.uninitHandle with flags := flags.bits }

def cb (builder : HandlerParamsBuilder) (cb : Word) : HandlerParamsBuilder where
  maskFlags := builder.maskFlags ||| UcpAmHandlerParamField.fieldCb
  uninitHandle := { builder.uninitHandle with cb := cb }

def arg (builder : HandlerParamsBuilder) (arg : Word) : HandlerParamsBuilder where
  maskFlags := builder.maskFlags ||| UcpAmHandlerParamField.fieldArg
  uninitHandle := { builder.uninitHandle with arg := arg }

def build (builder : HandlerParamsBuilder) : HandlerParams where
  handle := { builder.uninitHandle with fieldMask := builder.maskFlags }

end HandlerParamsBuilder

structure ModifyParamsBuilder where
  handle : UcpEpParams
  deriving DecidableEq, Repr

namespace ModifyParamsBuilder

def new : ModifyParamsBuilder where
  handle := .zeroed

def errHandler (builder : ModifyParamsBuilder) (cb : Word) : ModifyParamsBuilder where
  handle := { builder.handle with
    fieldMask := builder.handle.fieldMask ||| UcpEpParam.fieldErrHandler
    errHandler := { builder.handle.errHandler with cb := cb } }

def errHandlerArg (builder : ModifyParamsBuilder) (ptr : Word) : ModifyParamsBuilder where
  handle := { builder.handle with
    errHandler := { builder.handle.errHandler with arg := ptr } }

def userData (builder : ModifyParamsBuilder) (ptr : Word) : ModifyParamsBuilder where
  handle := { builder.handle with
    fieldMask := builder.handle.fieldMask ||| UcpEpParam.fieldUserData
    userData := ptr }

def build (builder : ModifyParamsBuilder) : ModifyParams where
  handle := builder.handle

end ModifyParamsBuilder

namespace UcpListenerParam

-- `ucp_listener_params_field`

def fieldSockAddr : BitVec 64 := 1
def fieldAcceptHandler : BitVec 64 := 2
def fieldConnHandler : BitVec 64 := 4

end UcpListenerParam

namespace Listener

structure ListenerParams where
  params : UcpListenerParams
  deriving DecidableEq, Repr

/-- `listener::ParamsBuilder`, whose setters consume it. -/
structure ParamsBuilder where
  params : UcpListenerParams
  deriving DecidableEq, Repr

namespace ParamsBuilder

def new : ParamsBuilder where
  params := .zeroed

def sockaddr (builder : ParamsBuilder) (addr : SockAddr) : ParamsBuilder where
  params := { builder.params with
    fieldMask := builder.params.fieldMask ||| UcpListenerParam.fieldSockAddr
    sockaddr := addr.toFfi }

def acceptHandler (builder : ParamsBuilder) (callback arg : Word) : ParamsBuilder where
  params := { builder.params with
    fieldMask := builder.params.fieldMask ||| UcpListenerParam.fieldAcceptHandler
    acceptHandler := ⟨callback, arg⟩ }

def connHandler (builder : ParamsBuilder) (callback arg : Word) : ParamsBuilder where
  params := { builder.params with
    fieldMask := builder.params.fieldMask ||| UcpListenerParam.fieldConnHandler
    connHandler := ⟨callback, arg⟩ }

def build (builder : ParamsBuilder) : ListenerParams where
  params := builder.params

end ParamsBuilder

end Listener

namespace UcpParam

-- `ucp_params_field`

def fieldFeatures : BitVec 64 := 1
def fieldRequestSize : BitVec 64 := 2
def fieldRequestInit : BitVec 64 := 4
def fieldRequestCleanup : BitVec 64 := 8
def fieldTagSenderMask : BitVec 64 := 16
def fieldMtWorkersShared : BitVec 64 := 32
def fieldEstimatedNumEps : BitVec 64 := 64
def fieldEstimatedNumPpn : BitVec 64 := 128
def fieldName : BitVec 64 := 256

end UcpParam

namespace Context

structure Flags where
  bits : BitVec 64
  deriving DecidableEq, Repr

structure Params where
  handle : UcpParams
  name : Option CString
  mtWorkersShared : Bool
  deriving DecidableEq, Repr

/-- `context::ParamsBuilder`.  Its fields `name` and `mt_workers_shared` are
called `heldName` and `sharedMtWorkers` beside the setters of those names. -/
structure ParamsBuilder where
  uninitHandle : UcpParams
  fieldMask : BitVec 64
  heldName : Option CString
  sharedMtWorkers : Bool
  deriving DecidableEq, Repr

namespace ParamsBuilder

def new : ParamsBuilder where
  uninitHandle := .zeroed
  fieldMask := 0
  heldName := none
  sharedMtWorkers := false

def features (builder : ParamsBuilder) (features : Flags) : ParamsBuilder :=
  { builder with
    fieldMask := builder.fieldMask ||| UcpParam.fieldFeatures
    uninitHandle := { builder.uninitHandle with features := features.bits } }

def requestSize (builder : ParamsBuilder) (size : Nat) : ParamsBuilder :=
  { builder with
    fieldMask := builder.fieldMask ||| UcpParam.fieldRequestSize
    uninitHandle := { builder.uninitHandle with requestSize := size } }

def requestInit (builder : ParamsBuilder) (cb : Word) : ParamsBuilder :=
  { builder with
    fieldMask := builder.fieldMask ||| UcpParam.fieldRequestInit
    uninitHandle := { builder.uninitHandle with requestInit := cb } }

def requestCleanup (builder : ParamsBuilder) (cb : Word) : ParamsBuilder :=
  { builder with
    fieldMask := builder.fieldMask ||| UcpParam.fieldRequestCleanup
    uninitHandle := { builder.uninitHandle with requestCleanup := cb } }

def tagSenderMask (builder : ParamsBuilder) (mask : BitVec 64) : ParamsBuilder :=
  { builder with
    fieldMask := builder.fieldMask ||| UcpParam.fieldTagSenderMask
    uninitHandle := { builder.uninitHandle with tagSenderMask := mask } }

def mtWorkersShared (builder : ParamsBuilder) (shared : BitVec 32) : ParamsBuilder :=
  { builder with
    fieldMask := builder.fieldMask ||| UcpParam.fieldMtWorkersShared
    uninitHandle := { builder.uninitHandle with mtWorkersShared := shared }
    sharedMtWorkers := decide (shared ≠ 0) }

def estimatedNumEps (builder : ParamsBuilder) (numEps : Nat) : ParamsBuilder :=
  { builder with
    fieldMask := builder.fieldMask ||| UcpParam.fieldEstimatedNumEps
    uninitHandle := { builder.uninitHandle with estimatedNumEps := numEps } }

def estimatedNumPpn (builder : ParamsBuilder) (numPpn : Nat) : ParamsBuilder :=
  { builder with
    fieldMask := builder.fieldMask ||| UcpParam.fieldEstimatedNumPpn
    uninitHandle := { builder.uninitHandle with estimatedNumPpn := numPpn } }

/-- `ParamsBuilder::name`, with the address of the new string. -/
def name (builder : ParamsBuilder) (allocation : Word) (name : List (BitVec 8)) :
    Except NulError Unit × ParamsBuilder :=
  match CString.new allocation name with
  | none => (.error ⟨⟩, builder)
  | some nameCs =>
      (.ok (), { builder with
        fieldMask := builder.fieldMask ||| UcpParam.fieldName
        heldName := some nameCs })

/-- `ParamsBuilder::build` returns the parameters and leaves a builder without
the name, but with its mask. -/
def build (builder : ParamsBuilder) : Params × ParamsBuilder :=
  let handle := { builder.uninitHandle with fieldMask := builder.fieldMask }
  let left := { builder with
    uninitHandle := handle
    heldName := none }
  match builder.heldName with
  | some newName =>
      ({ handle := { handle with name := newName.address }
         name := some newName
         mtWorkersShared := builder.sharedMtWorkers }, left)
  | none =>
      ({ handle := handle
         name := none
         mtWorkersShared := builder.sharedMtWorkers }, left)

end ParamsBuilder

end Context

namespace UcpWorkerParam

-- `ucp_worker_params_field`

def fieldThreadMode : BitVec 64 := 1
def fieldCpuMask : BitVec 64 := 2
def fieldEvents : BitVec 64 := 4
def fieldUserData : BitVec 64 := 8
def fieldEventFd : BitVec 64 := 16
def fieldFlags : BitVec 64 := 32
def fieldName : BitVec 64 := 64
def fieldAmAlignment : BitVec 64 := 128
def fieldClientId : BitVec 64 := 256

end UcpWorkerParam

inductive ThreadMode where
  | single
  | serialized
  | multi
  | unknown
  deriving DecidableEq, Repr

def ThreadMode.toFfi : ThreadMode → UcsThreadMode
  | single => .single
  | serialized => .serialized
  | multi => .multi
  | unknown => .multi

def ThreadMode.fromFfi : UcsThreadMode → ThreadMode
  | .single => single
  | .serialized => serialized
  | .multi => multi
  | .last => unknown

structure CpuSet where
  set : UcsCpuSet
  deriving DecidableEq, Repr

namespace Worker

structure UcpWorkerFlags where
  bits : BitVec 64
  deriving DecidableEq, Repr

structure Params where
  handle : UcpWorkerParams
  name : Option CString
  deriving DecidableEq, Repr

/-- `worker::ParamsBuilder`, with its field `name` called `heldName`. -/
structure ParamsBuilder where
  uninitHandle : UcpWorkerParams
  fieldMask : BitVec 64
  heldName : Option CString
  deriving DecidableEq, Repr

namespace ParamsBuilder

def new : ParamsBuilder where
  uninitHandle := .zeroed
  fieldMask := 0
  heldName := none

def threadMode (builder : ParamsBuilder) (threadMode : ThreadMode) : ParamsBuilder :=
  { builder with
    fieldMask := builder.fieldMask ||| UcpWorkerParam.fieldThreadMode
    uninitHandle := { builder.uninitHandle with threadMode := threadMode.toFfi } }

def cpuSet (builder : ParamsBuilder) (cpuSet : CpuSet) : ParamsBuilder :=
  { builder with
    fieldMask := builder.fieldMask ||| UcpWorkerParam.fieldCpuMask
    uninitHandle := { builder.uninitHandle with cpuMask := cpuSet.set } }

def events (builder : ParamsBuilder) (events : BitVec 32) : ParamsBuilder :=
  { builder with
    fieldMask := builder.fieldMask ||| UcpWorkerParam.fieldEvents
    uninitHandle := { builder.uninitHandle with events := events } }

def userData (builder : ParamsBuilder) (data : Word) : ParamsBuilder :=
  { builder with
    fieldMask := builder.fieldMask ||| UcpWorkerParam.fieldUserData
    uninitHandle := { builder.uninitHandle with userData := data } }

def eventFd (builder : ParamsBuilder) (eventFd : BitVec 32) : ParamsBuilder :=
  { builder with
    fieldMask := builder.fieldMask ||| UcpWorkerParam.fieldEventFd
    uninitHandle := { builder.uninitHandle with eventFd := eventFd } }

def flags (builder : ParamsBuilder) (flags : UcpWorkerFlags) : ParamsBuilder :=
  { builder with
    fieldMask := builder.fieldMask ||| UcpWorkerParam.fieldFlags
    uninitHandle := { builder.uninitHandle with flags := flags.bits } }

/-- `ParamsBuilder::name`, with the address of the new string. -/
def name (builder : ParamsBuilder) (allocation : Word) (name : List (BitVec 8)) :
    Except NulError Unit × ParamsBuilder :=
  match CString.new allocation name with
  | none => (.error ⟨⟩, builder)
  | some nameCs =>
      (.ok (), { builder with
        fieldMask := builder.fieldMask ||| UcpWorkerParam.fieldName
        heldName := some nameCs })

def amAlignment (builder : ParamsBuilder) (amAlignment : Nat) : ParamsBuilder :=
  { builder with
    fieldMask := builder.fieldMask ||| UcpWorkerParam.fieldAmAlignment
    uninitHandle := { builder.uninitHandle with amAlignment := amAlignment } }

def clientId (builder : ParamsBuilder) (clientId : BitVec 64) : ParamsBuilder :=
  { builder with
    fieldMask := builder.fieldMask ||| UcpWorkerParam.fieldClientId
    uninitHandle := { builder.uninitHandle with clientId := clientId } }

/-- `ParamsBuilder::build` returns the parameters and leaves a builder without
the name, but with its mask. -/
def build (builder : ParamsBuilder) : Params × ParamsBuilder :=
  let handle := { builder.uninitHandle with fieldMask := builder.fieldMask }
  let left := { builder with
    uninitHandle := handle
    heldName := none }
  match builder.heldName with
  | some newName =>
      ({ handle := { handle with name := newName.address }
         name := some newName }, left)
  | none => ({ handle := handle, name := none }, left)

end ParamsBuilder

end Worker

end UcxRs
