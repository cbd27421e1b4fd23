import UcxRs.AtomicOperations

/-!
# The two families of atomic operations

UCX reads the count of `ucp_atomic_op_nbx` as a number of elements, and the
datatype and the reply buffer of the parameters only when their mask bits are
set.  Seen that way, a method `Ep::amo_*` and the deprecated function of the
same name agree on the operation itself and on nothing that sizes it: the
method passes the size of the operand in bytes as the count, and the function
stores a datatype that UCX does not see.
-/

namespace UcxRs

/-- The reply buffer that UCX reads. -/
def UcpRequestParam.effectiveReplyBuffer (param : UcpRequestParam) : Option Word :=
  if param.opAttrMask &&& UcpOpAttr.fieldReplyBuffer ≠ 0 then some param.replyBuffer
  else none

/-- The datatype that UCX reads. -/
def UcpRequestParam.effectiveDatatype (param : UcpRequestParam) : Option Word :=
  if param.opAttrMask &&& UcpOpAttr.fieldDatatype ≠ 0 then some param.datatype else none

/-- The element size of a contiguous datatype: what is above the bits of the
datatype class. -/
def contigElemSize (datatype : Word) : Option Nat :=
  if datatype &&& ((1 <<< UcpDatatype.shift) - 1) = UcpDatatype.contig then
    some (datatype >>> UcpDatatype.shift).toNat
  else none

namespace AtomicFamilies

/-- An atomic operation as UCX sees it. -/
structure AtomicView where
  ep : EpHandle
  opcode : UcpAtomicOp
  operand : List (BitVec 8)
  count : Nat
  remoteAddr : Word
  rkey : RkeyHandle
  replyBuffer : Option Word
  elementSize : Option Nat
  deriving DecidableEq, Repr

def viewCall : Call → Option AtomicView
  | .ucpAtomicOpNbx ep opcode operand count remoteAddr rkey param =>
      some {
        ep := ep
        opcode := opcode
        operand := operand
        count := count
        remoteAddr := remoteAddr
        rkey := rkey
        replyBuffer := param.effectiveReplyBuffer
        elementSize := param.effectiveDatatype.bind contigElemSize }
  | _ => none

/-- The operation that a program posts with its first call. -/
def posted {Result : Type} : Ffi Result → Option AtomicView
  | .done _ => none
  | .issue call _ => viewCall call

/-- Two posted operations are the same operation on one element of the given
width in bytes. -/
structure SamePosting (width : Nat) (first second : AtomicView) : Prop where
  opcode : first.opcode = second.opcode
  operand : first.operand = second.operand
  remoteAddr : first.remoteAddr = second.remoteAddr
  rkey : first.rkey = second.rkey
  replyBuffer : first.replyBuffer = second.replyBuffer
  count : first.count = 1 ∧ second.count = 1
  elementSize : first.elementSize = some width ∧ second.elementSize = some width

/-- An operation that both families offer, with its operand words.  An
operation that does not fetch may still be given a reply buffer. -/
inductive AtomicPair where
  | add32 (operand : BitVec 32) (reply : Option Word)
  | add64 (operand : BitVec 64) (reply : Option Word)
  | swap32 (operand : BitVec 32) (reply : Option Word)
  | swap64 (operand : BitVec 64) (reply : Option Word)
  | xor32 (operand : BitVec 32) (reply : Option Word)
  | xor64 (operand : BitVec 64) (reply : Option Word)
  | fadd32 (operand : BitVec 32) (reply : Word)
  | fadd64 (operand : BitVec 64) (reply : Word)
  | fswap32 (operand : BitVec 32) (reply : Word)
  | fswap64 (operand : BitVec 64) (reply : Word)
  | fxor32 (operand : BitVec 32) (reply : Word)
  | fxor64 (operand : BitVec 64) (reply : Word)
  | fcswap32 (expected replacement : BitVec 32) (reply : Word)
  | fcswap64 (expected replacement : BitVec 64) (reply : Word)
  deriving DecidableEq, Repr

/-- Parameters with no other field than the reply buffer, if there is one. -/
def paramOf : Option Word → RequestParam
  | none => RequestParamBuilder.new.build
  | some reply => .fetchParams reply

namespace AtomicPair

/-- The width of an operand word in bytes. -/
def width : AtomicPair → Nat
  | add32 _ _ | swap32 _ _ | xor32 _ _ => 4
  | fadd32 _ _ | fswap32 _ _ | fxor32 _ _ | fcswap32 _ _ _ => 4
  | add64 _ _ | swap64 _ _ | xor64 _ _ => 8
  | fadd64 _ _ | fswap64 _ _ | fxor64 _ _ | fcswap64 _ _ _ => 8

variable (ep : Ep) (worker : Worker) (remoteAddr : Word) (rkey : RemoteKey)

/-- What the method `Ep::amo_*` posts. -/
def method : AtomicPair → Option AtomicView
  | add32 operand reply => posted (ep.amoAdd32 remoteAddr rkey (paramOf reply) operand)
  | add64 operand reply => posted (ep.amoAdd64 remoteAddr rkey (paramOf reply) operand)
  | swap32 operand reply => posted (ep.amoSwap32 remoteAddr rkey (paramOf reply) operand)
  | swap64 operand reply => posted (ep.amoSwap64 remoteAddr rkey (paramOf reply) operand)
  | xor32 operand reply => posted (ep.amoXor32 remoteAddr rkey (paramOf reply) operand)
  | xor64 operand reply => posted (ep.amoXor64 remoteAddr rkey (paramOf reply) operand)
  | fadd32 operand reply => posted (ep.amoFadd32 worker remoteAddr rkey reply operand)
  | fadd64 operand reply => posted (ep.amoFadd64 worker remoteAddr rkey reply operand)
  | fswap32 operand reply => posted (ep.amoFswap32 worker remoteAddr rkey reply operand)
  | fswap64 operand reply => posted (ep.amoFswap64 worker remoteAddr rkey reply operand)
  | fxor32 operand reply => posted (ep.amoFxor32 worker remoteAddr rkey reply operand)
  | fxor64 operand reply => posted (ep.amoFxor64 worker remoteAddr rkey reply operand)
  | fcswap32 expected replacement reply =>
      posted (ep.amoFcswap32 worker remoteAddr rkey reply expected replacement)
  | fcswap64 expected replacement reply =>
      posted (ep.amoFcswap64 worker remoteAddr rkey reply expected replacement)

/-- What the function `rma::atomic_*` posts. -/
def function : AtomicPair → Option AtomicView
  | add32 operand reply => posted (atomicAdd32 ep remoteAddr rkey (paramOf reply) operand)
  | add64 operand reply => posted (atomicAdd64 ep remoteAddr rkey (paramOf reply) operand)
  | swap32 operand reply => posted (atomicSwap32 ep remoteAddr rkey (paramOf reply) operand)
  | swap64 operand reply => posted (atomicSwap64 ep remoteAddr rkey (paramOf reply) operand)
  | xor32 operand reply => posted (atomicXor32 ep remoteAddr rkey (paramOf reply) operand)
  | xor64 operand reply => posted (atomicXor64 ep remoteAddr rkey (paramOf reply) operand)
  | fadd32 operand reply =>
      posted (atomicFadd32 ep remoteAddr rkey (.fetchParams reply) operand reply)
  | fadd64 operand reply =>
      posted (atomicFadd64 ep remoteAddr rkey (.fetchParams reply) operand reply)
  | fswap32 operand reply =>
      posted (atomicFswap32 ep remoteAddr rkey (.fetchParams reply) operand reply)
  | fswap64 operand reply =>
      posted (atomicFswap64 ep remoteAddr rkey (.fetchParams reply) operand reply)
  | fxor32 operand reply =>
      posted (atomicFxor32 ep remoteAddr rkey (.fetchParams reply) operand reply)
  | fxor64 operand reply =>
      posted (atomicFxor64 ep remoteAddr rkey (.fetchParams reply) operand reply)
  | fcswap32 expected replacement reply =>
      posted (atomicFcswap32 ep remoteAddr rkey (.fetchParams reply) expected replacement
        reply)
  | fcswap64 expected replacement reply =>
      posted (atomicFcswap64 ep remoteAddr rkey (.fetchParams reply) expected replacement
        reply)

end AtomicPair

section Bodies

variable (ep : Ep) (worker : Worker) (opcode : AtomicOp) (operand : List (BitVec 8))
  (size elemSize : Nat) (remoteAddr : Word) (rkey : RemoteKey)

theorem effectiveReplyBuffer_of_mask {param : UcpRequestParam}
    (mask : param.opAttrMask = UcpOpAttr.fieldReplyBuffer) :
    param.effectiveReplyBuffer = some param.replyBuffer := by
  unfold UcpRequestParam.effectiveReplyBuffer
  rw [mask, if_pos (by decide)]

theorem effectiveReplyBuffer_of_no_mask {param : UcpRequestParam}
    (mask : param.opAttrMask = 0) : param.effectiveReplyBuffer = none := by
  unfold UcpRequestParam.effectiveReplyBuffer
  rw [mask, if_neg (by decide)]

theorem effectiveDatatype_of_mask {param : UcpRequestParam}
    (mask : param.opAttrMask = 0 ∨ param.opAttrMask = UcpOpAttr.fieldReplyBuffer) :
    param.effectiveDatatype = none := by
  unfold UcpRequestParam.effectiveDatatype
  rcases mask with mask | mask <;> rw [mask, if_neg (by decide)]

theorem mask_fetchParams (reply : Word) :
    (RequestParam.fetchParams reply).handle.opAttrMask = UcpOpAttr.fieldReplyBuffer :=
  BitVec.zero_or

theorem mask_paramOf (reply : Option Word) :
    (paramOf reply).handle.opAttrMask = 0 ∨
      (paramOf reply).handle.opAttrMask = UcpOpAttr.fieldReplyBuffer := by
  cases reply with
  | none => exact Or.inl rfl
  | some reply => exact Or.inr (mask_fetchParams reply)

theorem effectiveReplyBuffer_paramOf (reply : Option Word) :
    (paramOf reply).handle.effectiveReplyBuffer = reply := by
  cases reply with
  | none => exact effectiveReplyBuffer_of_no_mask rfl
  | some reply => exact effectiveReplyBuffer_of_mask (mask_fetchParams reply)

/-- What a method without a fetched value posts. -/
theorem posted_amo (reply : Option Word) :
    posted (ep.amo opcode.toFfi operand size remoteAddr rkey (paramOf reply)) =
      some ⟨ep.handle, opcode.toFfi, operand, size, remoteAddr, rkey.handle, reply, none⟩ := by
  have replyRead := effectiveReplyBuffer_paramOf reply
  have datatypeRead := effectiveDatatype_of_mask (mask_paramOf reply)
  change some (AtomicView.mk _ _ _ _ _ _ _ _) = _
  rw [replyRead, datatypeRead]
  rfl

/-- What a deprecated function posts: the datatype that it stores stays invisible. -/
theorem posted_atomicTyped (reply : Option Word) :
    posted (atomicTyped ep opcode operand elemSize remoteAddr rkey (paramOf reply)) =
      some ⟨ep.handle, opcode.toFfi, operand, 1, remoteAddr, rkey.handle, reply, none⟩ := by
  have replyRead := effectiveReplyBuffer_paramOf reply
  have datatypeRead : { (paramOf reply).handle with
      datatype := dtMakeContig elemSize }.effectiveDatatype = none :=
    effectiveDatatype_of_mask (mask_paramOf reply)
  change some (AtomicView.mk _ _ _ _ _ _
    ((paramOf reply).handle.effectiveReplyBuffer) _) = _
  rw [replyRead, datatypeRead]
  rfl

theorem toNat_dtMakeContig (bounded : elemSize < 2 ^ 61) :
    (dtMakeContig elemSize).toNat = elemSize * 2 ^ 3 := by
  have shifted : dtMakeContig elemSize = BitVec.ofNat 64 elemSize <<< 3 := BitVec.or_zero
  rw [shifted, BitVec.toNat_shiftLeft, Nat.shiftLeft_eq, BitVec.toNat_ofNat]
  omega

/-- The datatype that a deprecated function stores announces the element size to
whoever reads it. -/
theorem contigElemSize_dtMakeContig (bounded : elemSize < 2 ^ 61) :
    contigElemSize (dtMakeContig elemSize) = some elemSize := by
  have value := toNat_dtMakeContig elemSize bounded
  have classBits : dtMakeContig elemSize &&& ((1 <<< UcpDatatype.shift) - 1) =
      UcpDatatype.contig := by
    apply BitVec.eq_of_toNat_eq
    rw [BitVec.toNat_and, value]
    refine (Nat.and_two_pow_sub_one_eq_mod _ 3).trans ?_
    exact Nat.mul_mod_left elemSize (2 ^ 3)
  have sizeBits : (dtMakeContig elemSize >>> UcpDatatype.shift).toNat = elemSize := by
    rw [BitVec.toNat_ushiftRight, value, Nat.shiftRight_eq_div_pow]
    exact Nat.mul_div_left elemSize (by decide)
  unfold contigElemSize
  rw [if_pos classBits, sizeBits]

end Bodies

namespace AtomicPair

def opcode : AtomicPair → AtomicOp
  | add32 _ _ | add64 _ _ | fadd32 _ _ | fadd64 _ _ => .add
  | swap32 _ _ | swap64 _ _ | fswap32 _ _ | fswap64 _ _ => .swap
  | xor32 _ _ | xor64 _ _ | fxor32 _ _ | fxor64 _ _ => .xor
  | fcswap32 _ _ _ | fcswap64 _ _ _ => .cSwap

/-- The operand bytes: for compare-and-swap the expected value comes first. -/
def operandBytes : AtomicPair → List (BitVec 8)
  | add32 operand _ | swap32 operand _ | xor32 operand _ => memoryBytes operand
  | fadd32 operand _ | fswap32 operand _ | fxor32 operand _ => memoryBytes operand
  | add64 operand _ | swap64 operand _ | xor64 operand _ => memoryBytes operand
  | fadd64 operand _ | fswap64 operand _ | fxor64 operand _ => memoryBytes operand
  | fcswap32 expected replacement _ => pairBytes expected replacement
  | fcswap64 expected replacement _ => pairBytes expected replacement

def reply : AtomicPair → Option Word
  | add32 _ reply | swap32 _ reply | xor32 _ reply => reply
  | add64 _ reply | swap64 _ reply | xor64 _ reply => reply
  | fadd32 _ reply | fswap32 _ reply | fxor32 _ reply | fcswap32 _ _ reply => some reply
  | fadd64 _ reply | fswap64 _ reply | fxor64 _ reply | fcswap64 _ _ reply => some reply

variable (pair : AtomicPair) (ep : Ep) (worker : Worker) (remoteAddr : Word)
  (rkey : RemoteKey)

theorem method_eq :
    pair.method ep worker remoteAddr rkey =
      some ⟨ep.handle, pair.opcode.toFfi, pair.operandBytes, pair.operandBytes.length,
        remoteAddr, rkey.handle, pair.reply, none⟩ := by
  cases pair with
  | add32 operand reply => exact posted_amo ep .add _ 4 remoteAddr rkey reply
  | add64 operand reply => exact posted_amo ep .add _ 8 remoteAddr rkey reply
  | swap32 operand reply => exact posted_amo ep .swap _ 4 remoteAddr rkey reply
  | swap64 operand reply => exact posted_amo ep .swap _ 8 remoteAddr rkey reply
  | xor32 operand reply => exact posted_amo ep .xor _ 4 remoteAddr rkey reply
  | xor64 operand reply => exact posted_amo ep .xor _ 8 remoteAddr rkey reply
  | fadd32 operand reply => exact posted_amo ep .add _ 4 remoteAddr rkey (some reply)
  | fadd64 operand reply => exact posted_amo ep .add _ 8 remoteAddr rkey (some reply)
  | fswap32 operand reply => exact posted_amo ep .swap _ 4 remoteAddr rkey (some reply)
  | fswap64 operand reply => exact posted_amo ep .swap _ 8 remoteAddr rkey (some reply)
  | fxor32 operand reply => exact posted_amo ep .xor _ 4 remoteAddr rkey (some reply)
  | fxor64 operand reply => exact posted_amo ep .xor _ 8 remoteAddr rkey (some reply)
  | fcswap32 expected replacement reply =>
      exact posted_amo ep .cSwap _ 8 remoteAddr rkey (some reply)
  | fcswap64 expected replacement reply =>
      exact posted_amo ep .cSwap _ 16 remoteAddr rkey (some reply)

theorem function_eq :
    pair.function ep remoteAddr rkey =
      some ⟨ep.handle, pair.opcode.toFfi, pair.operandBytes, 1, remoteAddr, rkey.handle,
        pair.reply, none⟩ := by
  cases pair with
  | add32 operand reply => exact posted_atomicTyped ep .add _ 4 remoteAddr rkey reply
  | add64 operand reply => exact posted_atomicTyped ep .add _ 8 remoteAddr rkey reply
  | swap32 operand reply => exact posted_atomicTyped ep .swap _ 4 remoteAddr rkey reply
  | swap64 operand reply => exact posted_atomicTyped ep .swap _ 8 remoteAddr rkey reply
  | xor32 operand reply => exact posted_atomicTyped ep .xor _ 4 remoteAddr rkey reply
  | xor64 operand reply => exact posted_atomicTyped ep .xor _ 8 remoteAddr rkey reply
  | fadd32 operand reply => exact posted_atomicTyped ep .add _ 4 remoteAddr rkey (some reply)
  | fadd64 operand reply => exact posted_atomicTyped ep .add _ 8 remoteAddr rkey (some reply)
  | fswap32 operand reply =>
      exact posted_atomicTyped ep .swap _ 4 remoteAddr rkey (some reply)
  | fswap64 operand reply =>
      exact posted_atomicTyped ep .swap _ 8 remoteAddr rkey (some reply)
  | fxor32 operand reply => exact posted_atomicTyped ep .xor _ 4 remoteAddr rkey (some reply)
  | fxor64 operand reply => exact posted_atomicTyped ep .xor _ 8 remoteAddr rkey (some reply)
  | fcswap32 expected replacement reply =>
      exact posted_atomicTyped ep .cSwap _ 4 remoteAddr rkey (some reply)
  | fcswap64 expected replacement reply =>
      exact posted_atomicTyped ep .cSwap _ 8 remoteAddr rkey (some reply)

end AtomicPair

/-- The two postings of a pair agree on the operation, its operand bytes, its
target and its reply buffer, and UCX sees an element size in neither. -/
theorem families_agree_on_operation (pair : AtomicPair) (ep : Ep) (worker : Worker)
    (remoteAddr : Word) (rkey : RemoteKey) :
    ∃ first second,
      pair.method ep worker remoteAddr rkey = some first ∧
        pair.function ep remoteAddr rkey = some second ∧
        { first with count := second.count } = second ∧
        first.count = pair.operandBytes.length ∧ second.count = 1 ∧
        first.elementSize = none := by
  refine ⟨_, _, pair.method_eq ep worker remoteAddr rkey,
    pair.function_eq ep remoteAddr rkey, rfl, rfl, rfl, rfl⟩

/-- No pair posts the same operation on one element of the operand's width. -/
theorem families_never_agree (pair : AtomicPair) (ep : Ep) (worker : Worker)
    (remoteAddr : Word) (rkey : RemoteKey) :
    ¬ ∃ first second,
      pair.method ep worker remoteAddr rkey = some first ∧
        pair.function ep remoteAddr rkey = some second ∧
        SamePosting pair.width first second := by
  rintro ⟨first, second, methodPosts, functionPosts, same⟩
  have announced := same.elementSize.2
  rw [pair.function_eq] at functionPosts
  obtain rfl := Option.some.inj functionPosts
  cases announced

/-- Adding one to a 64-bit word: the method counts eight elements, the function
one, and neither announces a width. -/
theorem add64_families_disagree :
    let ep : Ep := ⟨⟨0x1000⟩, ⟨0⟩⟩
    let worker : Worker := ⟨⟨0x2000⟩, ⟨0⟩⟩
    let rkey : RemoteKey := ⟨⟨0x3000⟩, ⟨0⟩⟩
    let pair : AtomicPair := .add64 1 none
    ¬ ∃ first second,
      pair.method ep worker 0x4000 rkey = some first ∧
        pair.function ep 0x4000 rkey = some second ∧
        SamePosting pair.width first second := by
  intro ep worker rkey pair
  rintro ⟨first, second, methodPosts, functionPosts, same⟩
  have methodCount : (pair.method ep worker 0x4000 rkey).map AtomicView.count = some 8 := by
    decide
  rw [methodPosts, Option.map_some, same.count.1] at methodCount
  exact absurd methodCount (by decide)

end AtomicFamilies

end UcxRs
