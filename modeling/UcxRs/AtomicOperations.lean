import UcxRs.PostingOperations

/-!
# Atomic operations

Two families wrap `ucp_atomic_op_nbx`: the methods `Ep::amo_*` and the
deprecated functions of `rma::atomic`.  The operations of a family differ only
in opcode, operand and width, so each is an instance of one definition: the
methods pass the size of the operand in bytes as the count and leave the
parameters alone; the functions pass the count one and store a datatype.
-/

namespace UcxRs

inductive AtomicOp where
  | add
  | swap
  | cSwap
  | and
  | or
  | xor
  deriving DecidableEq, Repr

def AtomicOp.toFfi : AtomicOp → UcpAtomicOp
  | add => .add
  | swap => .swap
  | cSwap => .cswap
  | and => .and
  | or => .or
  | xor => .xor

/-- The bytes of a word in memory, least significant first. -/
def memoryBytes {width : Nat} (word : BitVec width) : List (BitVec 8) :=
  (List.range (width / 8)).map fun index => word.extractLsb' (8 * index) 8

/-- The bytes of an array of two words. -/
def pairBytes {width : Nat} (first second : BitVec width) : List (BitVec 8) :=
  memoryBytes first ++ memoryBytes second

namespace Ep

/-- The body of a method without a fetched value. -/
def amo (ep : Ep) (opcode : UcpAtomicOp) (operand : List (BitVec 8)) (size : Nat)
    (remoteAddr : Word) (rkey : RemoteKey) (param : RequestParam) :
    Ffi (Except Status (Option Request)) := do
  let ptr ← perform
    (.ucpAtomicOpNbx ep.handle opcode operand size remoteAddr rkey.handle param.handle)
  pure (statusPtrToResult ptr)

/-- The body of a method that fetches the old value to `reply`. -/
def amoFetch (ep : Ep) (worker : Worker) (opcode : UcpAtomicOp)
    (operand : List (BitVec 8)) (size : Nat) (remoteAddr : Word) (rkey : RemoteKey)
    (reply : Word) : Ffi (Except Status FetchAmoRequest) := do
  let param := RequestParam.fetchParams reply
  let ptr ← perform
    (.ucpAtomicOpNbx ep.handle opcode operand size remoteAddr rkey.handle param.handle)
  pure ((statusPtrToResult ptr).map fun request => fetchAmoResult request worker)

section NoFetch

variable (ep : Ep) (remoteAddr : Word) (rkey : RemoteKey) (param : RequestParam)

def amoAdd64 (operand : BitVec 64) :=
  ep.amo .add (memoryBytes operand) 8 remoteAddr rkey param

def amoXor64 (operand : BitVec 64) :=
  ep.amo .xor (memoryBytes operand) 8 remoteAddr rkey param

def amoSwap64 (operand : BitVec 64) :=
  ep.amo .swap (memoryBytes operand) 8 remoteAddr rkey param

def amoAnd64 (operand : BitVec 64) :=
  ep.amo .and (memoryBytes operand) 8 remoteAddr rkey param

def amoOr64 (operand : BitVec 64) :=
  ep.amo .or (memoryBytes operand) 8 remoteAddr rkey param

def amoCswap64 (expected replacement : BitVec 64) :=
  ep.amo .cswap (pairBytes expected replacement) 16 remoteAddr rkey param

def amoAdd32 (operand : BitVec 32) :=
  ep.amo .add (memoryBytes operand) 4 remoteAddr rkey param

def amoXor32 (operand : BitVec 32) :=
  ep.amo .xor (memoryBytes operand) 4 remoteAddr rkey param

def amoSwap32 (operand : BitVec 32) :=
  ep.amo .swap (memoryBytes operand) 4 remoteAddr rkey param

def amoAnd32 (operand : BitVec 32) :=
  ep.amo .and (memoryBytes operand) 4 remoteAddr rkey param

def amoOr32 (operand : BitVec 32) :=
  ep.amo .or (memoryBytes operand) 4 remoteAddr rkey param

def amoCswap32 (expected replacement : BitVec 32) :=
  ep.amo .cswap (pairBytes expected replacement) 8 remoteAddr rkey param

end NoFetch

section Fetch

variable (ep : Ep) (worker : Worker) (remoteAddr : Word) (rkey : RemoteKey) (reply : Word)

def amoFadd64 (operand : BitVec 64) :=
  ep.amoFetch worker .add (memoryBytes operand) 8 remoteAddr rkey reply

def amoFxor64 (operand : BitVec 64) :=
  ep.amoFetch worker .xor (memoryBytes operand) 8 remoteAddr rkey reply

def amoFswap64 (operand : BitVec 64) :=
  ep.amoFetch worker .swap (memoryBytes operand) 8 remoteAddr rkey reply

def amoFcswap64 (compare swap : BitVec 64) :=
  ep.amoFetch worker .cswap (pairBytes compare swap) 16 remoteAddr rkey reply

def amoFadd32 (operand : BitVec 32) :=
  ep.amoFetch worker .add (memoryBytes operand) 4 remoteAddr rkey reply

def amoFxor32 (operand : BitVec 32) :=
  ep.amoFetch worker .xor (memoryBytes operand) 4 remoteAddr rkey reply

def amoFswap32 (operand : BitVec 32) :=
  ep.amoFetch worker .swap (memoryBytes operand) 4 remoteAddr rkey reply

def amoFcswap32 (expected swap : BitVec 32) :=
  ep.amoFetch worker .cswap (pairBytes expected swap) 8 remoteAddr rkey reply

end Fetch

end Ep

/-- The eight methods that fetch the old value, with their operands. -/
inductive FetchMethod where
  | fadd64 (operand : BitVec 64)
  | fxor64 (operand : BitVec 64)
  | fswap64 (operand : BitVec 64)
  | fcswap64 (compare swap : BitVec 64)
  | fadd32 (operand : BitVec 32)
  | fxor32 (operand : BitVec 32)
  | fswap32 (operand : BitVec 32)
  | fcswap32 (expected swap : BitVec 32)
  deriving DecidableEq, Repr

def FetchMethod.post (ep : Ep) (worker : Worker) (remoteAddr : Word) (rkey : RemoteKey)
    (reply : Word) : FetchMethod → Ffi (Except Status FetchAmoRequest)
  | fadd64 operand => ep.amoFadd64 worker remoteAddr rkey reply operand
  | fxor64 operand => ep.amoFxor64 worker remoteAddr rkey reply operand
  | fswap64 operand => ep.amoFswap64 worker remoteAddr rkey reply operand
  | fcswap64 compare swap => ep.amoFcswap64 worker remoteAddr rkey reply compare swap
  | fadd32 operand => ep.amoFadd32 worker remoteAddr rkey reply operand
  | fxor32 operand => ep.amoFxor32 worker remoteAddr rkey reply operand
  | fswap32 operand => ep.amoFswap32 worker remoteAddr rkey reply operand
  | fcswap32 expected swap => ep.amoFcswap32 worker remoteAddr rkey reply expected swap

def atomicOpNbx (ep : Ep) (opcode : AtomicOp) (buffer : List (BitVec 8)) (count : Nat)
    (remoteAddr : Word) (rkey : RemoteKey) (param : RequestParam) :
    Ffi (Except Status (Option Request)) := do
  let ptr ← perform
    (.ucpAtomicOpNbx ep.handle opcode.toFfi buffer count remoteAddr rkey.handle param.handle)
  pure (statusPtrToResult ptr)

/-- `atomic_fetch_nbx`; its reply buffer argument is unused. -/
def atomicFetchNbx (ep : Ep) (opcode : AtomicOp) (operand : List (BitVec 8))
    (_replyBuffer : Word) (count : Nat) (remoteAddr : Word) (rkey : RemoteKey)
    (param : RequestParam) : Ffi (Except Status (Option Request)) :=
  atomicOpNbx ep opcode operand count remoteAddr rkey param

/-- The body of a typed function: the datatype is stored without its mask bit. -/
def atomicTyped (ep : Ep) (opcode : AtomicOp) (operand : List (BitVec 8)) (elemSize : Nat)
    (remoteAddr : Word) (rkey : RemoteKey) (param : RequestParam) :
    Ffi (Except Status (Option Request)) :=
  let param : RequestParam :=
    { handle := { param.handle with datatype := dtMakeContig elemSize } }
  atomicOpNbx ep opcode operand 1 remoteAddr rkey param

section Typed

variable (ep : Ep) (remoteAddr : Word) (rkey : RemoteKey) (param : RequestParam)

def atomicAdd32 (operand : BitVec 32) :=
  atomicTyped ep .add (memoryBytes operand) 4 remoteAddr rkey param

def atomicAdd64 (operand : BitVec 64) :=
  atomicTyped ep .add (memoryBytes operand) 8 remoteAddr rkey param

def atomicSwap32 (operand : BitVec 32) :=
  atomicTyped ep .swap (memoryBytes operand) 4 remoteAddr rkey param

def atomicSwap64 (operand : BitVec 64) :=
  atomicTyped ep .swap (memoryBytes operand) 8 remoteAddr rkey param

def atomicXor32 (operand : BitVec 32) :=
  atomicTyped ep .xor (memoryBytes operand) 4 remoteAddr rkey param

def atomicXor64 (operand : BitVec 64) :=
  atomicTyped ep .xor (memoryBytes operand) 8 remoteAddr rkey param

-- the reply buffer argument of a fetching function is unused

def atomicFadd32 (operand : BitVec 32) (_replyBuffer : Word) :=
  atomicTyped ep .add (memoryBytes operand) 4 remoteAddr rkey param

def atomicFadd64 (operand : BitVec 64) (_replyBuffer : Word) :=
  atomicTyped ep .add (memoryBytes operand) 8 remoteAddr rkey param

def atomicFswap32 (operand : BitVec 32) (_replyBuffer : Word) :=
  atomicTyped ep .swap (memoryBytes operand) 4 remoteAddr rkey param

def atomicFswap64 (operand : BitVec 64) (_replyBuffer : Word) :=
  atomicTyped ep .swap (memoryBytes operand) 8 remoteAddr rkey param

def atomicFxor32 (operand : BitVec 32) (_replyBuffer : Word) :=
  atomicTyped ep .xor (memoryBytes operand) 4 remoteAddr rkey param

def atomicFxor64 (operand : BitVec 64) (_replyBuffer : Word) :=
  atomicTyped ep .xor (memoryBytes operand) 8 remoteAddr rkey param

def atomicFcswap32 (expected replacement : BitVec 32) (_replyBuffer : Word) :=
  atomicTyped ep .cSwap (pairBytes expected replacement) 4 remoteAddr rkey param

def atomicFcswap64 (expected replacement : BitVec 64) (_replyBuffer : Word) :=
  atomicTyped ep .cSwap (pairBytes expected replacement) 8 remoteAddr rkey param

end Typed

end UcxRs
