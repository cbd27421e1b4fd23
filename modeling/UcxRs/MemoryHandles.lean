import UcxRs.ParameterBuilders
import UcxRs.RemoteKeyFraming

/-!
# Registered memory and packed keys

`MemHandle` owns a memory region that UCX registered, `PackedMemhBuffer` and
`PackedRkeyBuffer` own a buffer that UCX allocated.  Each is released by its
drop; where a function fails after UCX has handed a buffer out, it releases the
buffer itself.
-/

namespace UcxRs

/-- `Context`, as far as memory is concerned. -/
structure Context where
  handle : ContextHandle
  deriving DecidableEq, Repr

def MemoryType.fromFfi : UcsMemoryType → MemoryType
  | .host => host
  | .cuda => cuda
  | .cudaManaged => cudaManaged
  | .rocm => rocm
  | .rocmManaged => rocmManaged
  | .rdma => rdma
  | .zeHost => zeHost
  | .zeDevice => zeDevice
  | .zeManaged => zeManaged
  | .last => unknown

/-- The raw type is converted by the accessor `mem_type`. -/
structure MemAttr where
  address : Word
  length : Nat
  rawMemType : UcsMemoryType
  deriving DecidableEq, Repr

namespace MemAttr

def fromFfi (ffi : UcpMemAttr) : MemAttr where
  address := ffi.address
  length := ffi.length
  rawMemType := ffi.memType

def memType (attr : MemAttr) : MemoryType :=
  .fromFfi attr.rawMemType

end MemAttr

structure MemHandle where
  context : ContextHandle
  handle : MemPointer
  deriving DecidableEq, Repr

/-- `MemHandleGuard`; the borrow of the buffer is not a value. -/
structure MemHandleGuard where
  memh : MemHandle
  deriving DecidableEq, Repr

namespace MemHandle

def map (context : Context) (params : MemMapParamsBuilder) :
    Ffi (Except Status MemHandle) := do
  let built := params.build
  let (status, memh) ← perform (.ucpMemMap context.handle built.handle)
  match statusToResult status with
  | .ok () => pure (.ok ⟨context.handle, memh⟩)
  | .error error => pure (.error error)

/-- `u32::try_from(flags)` fails on flags above 32 bits. -/
def mapSlice (context : Context) (mem : Buffer) (flags : BitVec 64) :
    Ffi (Except Status MemHandleGuard) :=
  if flags.toNat < 2 ^ 32 then do
    let params := (MemMapParamsBuilder.new.addressSlice mem).flags (flags.setWidth 32)
    let mapped ← map context params
    pure (mapped.map fun memh => ⟨memh⟩)
  else pure (.error .errInvalidParam)

/-- `MemHandle::query` sends a zeroed block, whose mask selects no field. -/
def query (memh : MemHandle) : Ffi (Except Status MemAttr) := do
  let (status, attr) ← perform (.ucpMemQuery memh.handle .zeroed)
  match statusToResult status with
  | .ok () => pure (.ok (.fromFfi attr))
  | .error error => pure (.error error)

def advise (memh : MemHandle) (params : MemAdviseParamsBuilder) :
    Ffi (Except Status Unit) := do
  let built := params.build
  let status ← perform (.ucpMemAdvise memh.context memh.handle built.handle)
  pure (statusToResult status)

/-- `Drop for MemHandle` ignores the status of the unmap. -/
def drop (memh : MemHandle) : Ffi Unit := do
  let _ ← perform (.ucpMemUnmap memh.context memh.handle)
  pure ()

end MemHandle

/-- The drop of the handle that the guard wraps. -/
def MemHandleGuard.drop (guard : MemHandleGuard) : Ffi Unit :=
  guard.memh.drop

structure PackedMemhBuffer where
  buffer : Word
  length : Nat
  deriving DecidableEq, Repr

/-- `Drop for PackedMemhBuffer`. -/
def PackedMemhBuffer.drop (packed : PackedMemhBuffer) : Ffi Unit :=
  if packed.buffer ≠ 0 then perform (.ucpMemhBufferRelease packed.buffer) else pure ()

/-- `pack_memh`. -/
def packMemh (memh : MemHandle) (params : MemhPackParamsBuilder) :
    Ffi (Except Status PackedMemhBuffer) := do
  let built := params.build
  let (status, buffer, length) ← perform (.ucpMemhPack memh.handle built.handle)
  match statusToResult status with
  | .ok () => pure (.ok ⟨buffer, length⟩)
  | .error error => pure (.error error)

structure PackedRkeyBuffer where
  buffer : Word
  size : Nat
  framed : List (BitVec 8)
  deriving DecidableEq, Repr

namespace PackedRkeyBuffer

/-- `PackedRkeyBuffer::from_raw_parts`, given the bytes behind the pointer. -/
def fromRawParts (buffer : Word) (payload : List (BitVec 8)) :
    Except Status PackedRkeyBuffer :=
  if payload.length < 2 ^ 32 then
    let payloadLen := BitVec.ofNat 32 payload.length
    .ok ⟨buffer, payload.length, memoryBytes payloadLen ++ payload⟩
  else .error .errOutOfRange

def asBytes (packed : PackedRkeyBuffer) : List (BitVec 8) :=
  packed.framed

/-- `Drop for PackedRkeyBuffer`. -/
def drop (packed : PackedRkeyBuffer) : Ffi Unit :=
  if packed.buffer ≠ 0 then perform (.ucpRkeyBufferRelease packed.buffer) else pure ()

end PackedRkeyBuffer

/-- `pack_rkey` releases the buffer itself when it cannot be framed. -/
def packRkey (context : Context) (memh : MemHandle) :
    Ffi (Except Status PackedRkeyBuffer) := do
  let (status, buffer, payload) ← perform (.ucpRkeyPack context.handle memh.handle)
  match statusToResult status with
  | .ok () =>
      match PackedRkeyBuffer.fromRawParts buffer payload with
      | .ok packed => pure (.ok packed)
      | .error error => do
          perform (.ucpRkeyBufferRelease buffer)
          pure (.error error)
  | .error error => pure (.error error)

/-- `RemoteKey::pack` copies the key and releases the buffer, framed or not. -/
def RemoteKey.pack (context : Context) (memh : MemHandle) :
    Ffi (Except Status (List (BitVec 8))) := do
  let (status, buffer, payload) ← perform (.ucpRkeyPack context.handle memh.handle)
  match statusToResult status with
  | .ok () => do
      let result := frameRkeyPayload payload
      perform (.ucpRkeyBufferRelease buffer)
      pure result
  | .error error => pure (.error error)

end UcxRs
