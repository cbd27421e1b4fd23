import UcxRs.UcpCalls

/-!
# Request parameters and datatypes

`RequestParamBuilder` accumulates a parameter block and, apart from it, the
mask of the fields that were set; `build` writes the mask into the block that
UCX reads.  UCX looks at a field only when its bit is in the mask.
-/

namespace UcxRs

namespace UcpOpAttr

-- `ucp_op_attr_t`

def fieldRequest : BitVec 32 := 1
def fieldCallback : BitVec 32 := 2
def fieldUserData : BitVec 32 := 4
def fieldDatatype : BitVec 32 := 8
def fieldFlags : BitVec 32 := 16
def fieldReplyBuffer : BitVec 32 := 32
def fieldMemoryType : BitVec 32 := 64
def fieldRecvInfo : BitVec 32 := 128
def fieldMemh : BitVec 32 := 256
def flagNoImmCmpl : BitVec 32 := 65536
def flagForceImmCmpl : BitVec 32 := 262144

end UcpOpAttr

inductive MemoryType where
  | host
  | cuda
  | cudaManaged
  | rocm
  | rocmManaged
  | rdma
  | zeHost
  | zeDevice
  | zeManaged
  | unknown
  deriving DecidableEq, Repr

/-- UCX spells "unknown" as the end-of-enumeration sentinel. -/
def MemoryType.toFfi : MemoryType → UcsMemoryType
  | host => .host
  | cuda => .cuda
  | cudaManaged => .cudaManaged
  | rocm => .rocm
  | rocmManaged => .rocmManaged
  | rdma => .rdma
  | zeHost => .zeHost
  | zeDevice => .zeDevice
  | zeManaged => .zeManaged
  | unknown => .last

structure RequestParam where
  handle : UcpRequestParam
  deriving DecidableEq, Repr

structure RequestParamBuilder where
  uninitHandle : UcpRequestParam
  fieldMask : BitVec 32
  deriving DecidableEq, Repr

namespace RequestParamBuilder

def new : RequestParamBuilder where
  uninitHandle := .zeroed
  fieldMask := 0

/-- `none` is the panic of the source: the two completion flags exclude each
other. -/
def forceImmCmpl (builder : RequestParamBuilder) : Option RequestParamBuilder :=
  if builder.fieldMask &&& UcpOpAttr.flagNoImmCmpl ≠ 0 then none
  else some { builder with
    fieldMask := builder.fieldMask ||| UcpOpAttr.flagForceImmCmpl }

def noImmCmpl (builder : RequestParamBuilder) : Option RequestParamBuilder :=
  if builder.fieldMask &&& UcpOpAttr.flagForceImmCmpl ≠ 0 then none
  else some { builder with
    fieldMask := builder.fieldMask ||| UcpOpAttr.flagNoImmCmpl }

def flags (builder : RequestParamBuilder) (flags : BitVec 32) :
    RequestParamBuilder where
  fieldMask := builder.fieldMask ||| UcpOpAttr.fieldFlags
  uninitHandle := { builder.uninitHandle with flags := flags }

def replyBuffer (builder : RequestParamBuilder) (buf : Word) :
    RequestParamBuilder where
  fieldMask := builder.fieldMask ||| UcpOpAttr.fieldReplyBuffer
  uninitHandle := { builder.uninitHandle with replyBuffer := buf }

def datatype (builder : RequestParamBuilder) (dt : BitVec 64) :
    RequestParamBuilder where
  fieldMask := builder.fieldMask ||| UcpOpAttr.fieldDatatype
  uninitHandle := { builder.uninitHandle with datatype := dt }

def sendCallback (builder : RequestParamBuilder) (cb : Word) :
    RequestParamBuilder where
  fieldMask := builder.fieldMask ||| UcpOpAttr.fieldCallback
  uninitHandle := { builder.uninitHandle with cb := cb }

def memoryType (builder : RequestParamBuilder) (mt : MemoryType) :
    RequestParamBuilder where
  fieldMask := builder.fieldMask ||| UcpOpAttr.fieldMemoryType
  uninitHandle := { builder.uninitHandle with memoryType := mt.toFfi }

def build (builder : RequestParamBuilder) : RequestParam where
  handle := { builder.uninitHandle with opAttrMask := builder.fieldMask }

end RequestParamBuilder

/-- `RequestParam::fetch_params`, given the address of the reply. -/
def RequestParam.fetchParams (reply : Word) : RequestParam :=
  (RequestParamBuilder.new.replyBuffer reply).build

def UcpDatatype.contig : BitVec 64 := 0
def UcpDatatype.shift : Nat := 3

/-- `dt_make_contig`: the element size over the datatype class. -/
def dtMakeContig (elemSize : Nat) : BitVec 64 :=
  (BitVec.ofNat 64 elemSize <<< UcpDatatype.shift) ||| UcpDatatype.contig

end UcxRs
