import UcxRs.Endpoint
import UcxRs.Listener

/-!
# Endpoint parameters and the creation of endpoints

`ep::ParamsBuilder` keeps a raw parameter block, the mask of the fields that
were set, and the values that the block points into: the name and the
connection request.  `build` moves the two values into the `Params` it returns
and copies the block, while the builder keeps its mask and its raw pointers.
-/

namespace UcxRs

namespace UcpEpParam

-- `ucp_ep_params_field`

def fieldRemoteAddress : BitVec 64 := 1
def fieldErrHandlingMode : BitVec 64 := 2
def fieldErrHandler : BitVec 64 := 4
def fieldUserData : BitVec 64 := 8
def fieldSockAddr : BitVec 64 := 16
def fieldFlags : BitVec 64 := 32
def fieldConnRequest : BitVec 64 := 64
def fieldName : BitVec 64 := 128
def fieldLocalSockAddr : BitVec 64 := 256

end UcpEpParam

inductive ErrorHandlerMode where
  | none
  | peer
  deriving DecidableEq, Repr

def ErrorHandlerMode.toFfi : ErrorHandlerMode → UcpErrHandlingMode
  | none => .none
  | peer => .peer

/-- A `CString`: where its bytes are, and the bytes before the final zero. -/
structure CString where
  address : Word
  bytes : List (BitVec 8)
  deriving DecidableEq, Repr

/-- `CString::new` at an address that the allocator chose; `none` is a
`NulError`. -/
def CString.new (address : Word) (bytes : List (BitVec 8)) : Option CString :=
  if 0 ∈ bytes then none else some ⟨address, bytes⟩

/-- The bytes of a `RemoteWorkerAddress`. -/
structure RemoteWorkerAddress where
  address : Buffer
  deriving DecidableEq, Repr

def RemoteWorkerAddress.getHandle (address : RemoteWorkerAddress) : Word × Nat :=
  (address.address.address, address.address.length)

/-- The boxed storage of an `ep::SockAddr`. -/
structure SockAddr where
  storage : UcsSockAddr
  deriving DecidableEq, Repr

def SockAddr.toFfi (address : SockAddr) : UcsSockAddr :=
  address.storage

namespace Ep

structure ParamsFlags where
  bits : BitVec 64
  deriving DecidableEq, Repr

structure Params where
  handle : UcpEpParams
  name : Option CString
  connRequest : Option ConnRequest
  deriving DecidableEq, Repr

/-- The request that the parameters own, or null. -/
def Params.connRequestPtr (params : Params) : ConnRequestPointer :=
  match params.connRequest with
  | some request => request.handle
  | none => ⟨0⟩

/-- `ep::ParamsBuilder`.  Its fields `name` and `conn_request` are called
`heldName` and `heldConnRequest` beside the setters of those names. -/
structure ParamsBuilder where
  uninitHandle : UcpEpParams
  fieldMask : BitVec 64
  heldName : Option CString
  heldConnRequest : Option ConnRequest
  deriving DecidableEq, Repr

namespace ParamsBuilder

def new : ParamsBuilder where
  uninitHandle := .zeroed
  fieldMask := 0
  heldName := none
  heldConnRequest := none

def address (builder : ParamsBuilder) (workerAddress : RemoteWorkerAddress) :
    ParamsBuilder :=
  let (address, _) := workerAddress.getHandle
  { builder with
    fieldMask := builder.fieldMask ||| UcpEpParam.fieldRemoteAddress
    uninitHandle := { builder.uninitHandle with address := address } }

def sockaddr (builder : ParamsBuilder) (addr : SockAddr) : ParamsBuilder :=
  { builder with
    fieldMask := builder.fieldMask ||| UcpEpParam.fieldSockAddr
    uninitHandle := { builder.uninitHandle with sockaddr := addr.toFfi } }

/-- A request that the builder held before is dropped. -/
def connRequest (builder : ParamsBuilder) (request : ConnRequest) : ParamsBuilder :=
  { builder with
    fieldMask := builder.fieldMask ||| UcpEpParam.fieldConnRequest
    uninitHandle := { builder.uninitHandle with connRequest := request.handle }
    heldConnRequest := some request }

/-- The flags are cut to the 32 bits of the field. -/
def paramsFlags (builder : ParamsBuilder) (flags : ParamsFlags) : ParamsBuilder :=
  { builder with
    fieldMask := builder.fieldMask ||| UcpEpParam.fieldFlags
    uninitHandle := { builder.uninitHandle with flags := flags.bits.setWidth 32 } }

def errMode (builder : ParamsBuilder) (mode : ErrorHandlerMode) : ParamsBuilder :=
  { builder with
    fieldMask := builder.fieldMask ||| UcpEpParam.fieldErrHandlingMode
    uninitHandle := { builder.uninitHandle with errMode := mode.toFfi } }

def errHandler (builder : ParamsBuilder) (cb : Word) : ParamsBuilder :=
  { builder with
    fieldMask := builder.fieldMask ||| UcpEpParam.fieldErrHandler
    uninitHandle := { builder.uninitHandle with
      errHandler := { builder.uninitHandle.errHandler with cb := cb } } }

/-- `err_handler_arg` sets no mask bit: the handler's bit covers both. -/
def errHandlerArg (builder : ParamsBuilder) (ptr : Word) : ParamsBuilder :=
  { builder with
    uninitHandle := { builder.uninitHandle with
      errHandler := { builder.uninitHandle.errHandler with arg := ptr } } }

def userData (builder : ParamsBuilder) (ptr : Word) : ParamsBuilder :=
  { builder with
    fieldMask := builder.fieldMask ||| UcpEpParam.fieldUserData
    uninitHandle := { builder.uninitHandle with userData := ptr } }

/-- `ParamsBuilder::name`, with the address of the new string; `none` is a
`NulError`, which leaves the builder as it was. -/
def name (builder : ParamsBuilder) (allocation : Word) (name : List (BitVec 8)) :
    Option ParamsBuilder :=
  (CString.new allocation name).map fun nameCs =>
    { builder with
      fieldMask := builder.fieldMask ||| UcpEpParam.fieldName
      heldName := some nameCs }

/-- `ParamsBuilder::build` returns the parameters and leaves a builder without
the name and the request, but with its mask and its raw block. -/
def build (builder : ParamsBuilder) : Params × ParamsBuilder :=
  let handle := { builder.uninitHandle with fieldMask := builder.fieldMask }
  let left := { builder with
    uninitHandle := handle
    heldName := none
    heldConnRequest := none }
  match builder.heldName with
  | some newName =>
      ({ handle := { handle with name := newName.address }
         name := some newName
         connRequest := builder.heldConnRequest }, left)
  | none =>
      ({ handle := handle, name := none, connRequest := builder.heldConnRequest }, left)

-- what a `build` hands over

@[simp]
theorem build_connRequest (builder : ParamsBuilder) :
    builder.build.1.connRequest = builder.heldConnRequest := by
  unfold build
  cases builder.heldName <;> rfl

@[simp]
theorem build_handle_connRequest (builder : ParamsBuilder) :
    builder.build.1.handle.connRequest = builder.uninitHandle.connRequest := by
  unfold build
  cases builder.heldName <;> rfl

@[simp]
theorem build_left_heldConnRequest (builder : ParamsBuilder) :
    builder.build.2.heldConnRequest = none := by
  unfold build
  cases builder.heldName <;> rfl

end ParamsBuilder

/-- `Ep::new` passes the parameter block as it is. -/
def new (epParams : Params) (worker : Worker) : Ffi (Except Status Ep) := do
  let (status, ep) ← perform (.ucpEpCreate worker.handle epParams.handle)
  pure ((statusToResult status).map fun _ => ⟨ep, worker.alive⟩)

end Ep

/-- `Worker::create_ep` takes the request pointer from the request that the
parameters own. -/
def Worker.createEp (worker : Worker) (epParams : Ep.Params) : Ffi (Except Status Ep) :=
  let epParams := { epParams with
    handle := { epParams.handle with connRequest := epParams.connRequestPtr } }
  Ep.new epParams worker

end UcxRs
