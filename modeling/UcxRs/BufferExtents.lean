import UcxRs.AtomicFamilies
import UcxRs.BuilderVisibility
import UcxRs.PostingOperations

/-!
# How much memory a datatype reaches

A posting call takes an address, a count and, in its parameter block, a datatype; UCX
touches `count` elements of that type.  The safe postings pass the length of their slice
as the count, which is right for bytes, the default.  But the caller may set any datatype
in the parameters, and nobody multiplies: this file says for which datatypes UCX stays
inside the slice.
-/

namespace UcxRs

/-- `UCP_DATATYPE_IOV`. -/
def UcpDatatype.iov : BitVec 64 := 2

/-- `dt_make_iov`. -/
def dtMakeIov : BitVec 64 := UcpDatatype.iov

namespace BufferExtents

open Interaction.Program
open MaskedFields (lastSet)
open RequestParamBuilder (Setter apply layout sets)

/-- The bits of the datatype class. -/
def classBits (datatype : Word) : Word :=
  datatype &&& ((1 <<< UcpDatatype.shift) - 1)

/-- The size of `ucp_dt_iov_t`, a pointer and a length. -/
def iovSize : Nat := 16

/-- The bytes behind the address of a buffer that UCX touches for a count.  `others`
says it for the strided and generic classes. -/
def extent (others : Word → Nat → Nat) (datatype : Word) (count : Nat) : Nat :=
  match contigElemSize datatype with
  | some elemSize => count * elemSize
  | none =>
      if classBits datatype = UcpDatatype.iov then count * iovSize
      else others datatype count

variable {others : Word → Nat → Nat}

/-- The shift by the class drops the top three bits of the size. -/
theorem dtMakeContig_mod (elemSize : Nat) :
    dtMakeContig elemSize = dtMakeContig (elemSize % 2 ^ 61) := by
  have shifted : ∀ size, dtMakeContig size = BitVec.ofNat 64 size <<< 3 :=
    fun _ => BitVec.or_zero
  apply BitVec.eq_of_toNat_eq
  rw [shifted, shifted, BitVec.toNat_shiftLeft, BitVec.toNat_shiftLeft, Nat.shiftLeft_eq,
    Nat.shiftLeft_eq, BitVec.toNat_ofNat, BitVec.toNat_ofNat]
  omega

theorem contigElemSize_dtMakeContig (elemSize : Nat) :
    contigElemSize (dtMakeContig elemSize) = some (elemSize % 2 ^ 61) := by
  rw [dtMakeContig_mod]
  exact AtomicFamilies.contigElemSize_dtMakeContig _ (Nat.mod_lt _ (by decide))

theorem extent_dtMakeContig (elemSize count : Nat) :
    extent others (dtMakeContig elemSize) count = count * (elemSize % 2 ^ 61) := by
  unfold extent
  rw [contigElemSize_dtMakeContig]

theorem extent_dtMakeContig_le_iff (elemSize count : Nat) :
    extent others (dtMakeContig elemSize) count ≤ count ↔
      elemSize % 2 ^ 61 ≤ 1 ∨ count = 0 := by
  rw [extent_dtMakeContig]
  constructor
  · intro within
    by_contra wider
    have positive : 0 < count := by omega
    have larger : count * 2 ≤ count * (elemSize % 2 ^ 61) :=
      Nat.mul_le_mul_left count (by omega)
    omega
  · rintro (small | rfl)
    · exact (Nat.mul_le_mul_left count small).trans_eq (Nat.mul_one count)
    · exact (Nat.zero_mul _).le

theorem extent_dtMakeIov_le_iff (count : Nat) :
    extent others dtMakeIov count ≤ count ↔ count = 0 := by
  have vector : extent others dtMakeIov count = count * 16 := rfl
  rw [vector]
  omega

/-- A buffer that UCX is given, with the datatype that it is told. -/
def transferred : Call → Option (Buffer × Option Word)
  | .ucpTagSendNbx _ buffer _ param => some (buffer, param.effectiveDatatype)
  | .ucpTagSendSyncNbx _ buffer _ param => some (buffer, param.bind (·.effectiveDatatype))
  | .ucpTagRecvNbx _ buffer _ _ param => some (buffer, param.effectiveDatatype)
  | .ucpTagMsgRecvNbx _ buffer _ param => some (buffer, param.effectiveDatatype)
  | .ucpStreamSendNbx _ buffer param => some (buffer, param.effectiveDatatype)
  | .ucpStreamRecvNbx _ buffer param => some (buffer, param.effectiveDatatype)
  | .ucpAmSendNbx _ _ _ data param => some (data, param.effectiveDatatype)
  | .ucpAmRecvDataNbx _ _ buffer param => some (buffer, param.bind (·.effectiveDatatype))
  | .ucpPutNbx _ buffer _ _ param => some (buffer, param.effectiveDatatype)
  | .ucpGetNbx _ buffer _ _ param => some (buffer, param.effectiveDatatype)
  | _ => none

/-- UCX touches no more than the slice; without a datatype it moves bytes. -/
def CallWithin (others : Word → Nat → Nat) (slice : Buffer) (call : Call) : Prop :=
  ∀ buffer datatype, transferred call = some (buffer, datatype) →
    buffer.address = slice.address ∧
      extent others (datatype.getD (dtMakeContig 1)) buffer.length ≤ slice.length

/-- Whatever UCX answers, it is not sent outside the slice. -/
def StaysWithin {Result : Type} (others : Word → Nat → Nat) (slice : Buffer)
    (program : Ffi Result) : Prop :=
  program.EveryCall (CallWithin others slice)

/-- The safe functions that post an operation on a slice, without their parameters. -/
inductive Posting where
  | tagSend (ep : Ep) (worker : Worker) (data : Buffer) (tag : Word)
  | tagSendSync (ep : Ep) (data : Buffer) (tag : Word)
  | tagRecv (receiver worker : Worker) (data : Buffer) (tag mask : Word)
  | tagMsgRecv (worker : Worker) (data : Buffer) (message : MessageHandle)
  | streamSend (ep : Ep) (worker : Worker) (data : Buffer)
  | streamRecv (ep : Ep) (worker : Worker) (buf : Buffer)
  | amSend (ep : Ep) (id : BitVec 32) (header data : Buffer)
  | amRecvData (worker : Worker) (dataDesc : NonNull) (buffer : Buffer)
  | rmaPut (ep : Ep) (buffer : Buffer) (remoteAddr : Word) (rkey : RemoteKey)
  | rmaGet (ep : Ep) (buffer : Buffer) (remoteAddr : Word) (rkey : RemoteKey)

namespace Posting

/-- The code of a posting; its result goes back to the caller. -/
def program (param : RequestParam) : Posting → Ffi Unit
  | tagSend ep worker data tag => ep.tagSend worker data tag param >>= fun _ => pure ()
  | tagSendSync ep data tag => ep.tagSendSync data tag >>= fun _ => pure ()
  | tagRecv receiver worker data tag mask =>
      receiver.tagRecv worker data tag mask param >>= fun _ => pure ()
  | tagMsgRecv worker data message =>
      worker.tagMsgRecv data message param >>= fun _ => pure ()
  | streamSend ep worker data => ep.streamSend worker data param >>= fun _ => pure ()
  | streamRecv ep worker buf => ep.streamRecv worker buf param >>= fun _ => pure ()
  | amSend ep id header data => ep.amSend id header data param >>= fun _ => pure ()
  | amRecvData worker dataDesc buffer =>
      worker.amRecvData dataDesc buffer param >>= fun _ => pure ()
  | rmaPut ep buffer remoteAddr rkey =>
      ep.rmaPut buffer remoteAddr rkey param >>= fun _ => pure ()
  | rmaGet ep buffer remoteAddr rkey =>
      ep.rmaGet buffer remoteAddr rkey param >>= fun _ => pure ()

/-- The slice that the caller gives up or lends. -/
def slice : Posting → Buffer
  | tagSend _ _ data _ => data
  | tagSendSync _ data _ => data
  | tagRecv _ _ data _ _ => data
  | tagMsgRecv _ data _ => data
  | streamSend _ _ data => data
  | streamRecv _ _ buf => buf
  | amSend _ _ _ data => data
  | amRecvData _ _ buffer => buffer
  | rmaPut _ buffer _ _ => buffer
  | rmaGet _ buffer _ _ => buffer

/-- The datatype that UCX is told; `tag_send_sync` takes no parameters, and a message
that was left in the queue is not received. -/
def datatypeOf (datatype : Option Word) : Posting → Option Word
  | tagSendSync _ _ _ => none
  | tagMsgRecv _ _ message => if message.removed then datatype else none
  | _ => datatype

end Posting

/-- The default moves as many bytes as the slice has. -/
theorem extent_default (count : Nat) : extent others (dtMakeContig 1) count = count := by
  rw [extent_dtMakeContig]
  exact Nat.mul_one count

theorem callWithin_iff {slice : Buffer} {call : Call} {datatype : Option Word}
    (transfers : transferred call = some (slice, datatype)) :
    CallWithin others slice call ↔
      ∀ told, datatype = some told → extent others told slice.length ≤ slice.length := by
  constructor
  · rintro within told rfl
    exact (within slice (some told) transfers).2
  · rintro within buffer other same
    rw [transfers] at same
    cases same
    refine ⟨rfl, ?_⟩
    cases datatype with
    | none => exact (extent_default _).le
    | some told => exact within told rfl

/-- A program of one posting call. -/
theorem staysWithin_call {Result : Type} {slice : Buffer} {call : Call}
    {datatype : Option Word} (transfers : transferred call = some (slice, datatype))
    (result : Answer call → Result) :
    StaysWithin others slice (.issue call fun answer => .done (result answer)) ↔
      ∀ told, datatype = some told → extent others told slice.length ≤ slice.length := by
  rw [← callWithin_iff transfers]
  exact and_iff_left fun _ => trivial

theorem staysWithin_program_iff (posting : Posting) (param : RequestParam) :
    StaysWithin others posting.slice (posting.program param) ↔
      ∀ told, posting.datatypeOf param.handle.effectiveDatatype = some told →
        extent others told posting.slice.length ≤ posting.slice.length := by
  cases posting with
  | tagMsgRecv worker data message =>
      obtain ⟨handle, info, _ | _⟩ := message
      · exact iff_of_true trivial fun told absent => by cases absent
      · exact staysWithin_call rfl _
  | _ => exact staysWithin_call rfl _

theorem effectiveDatatype_build (setters : List Setter) :
    (setters.foldl apply .new).build.handle.effectiveDatatype =
      lastSet (fun setter => sets setter .datatype) setters :=
  RequestParamBuilder.showsLastSet setters .datatype

/-- Whatever is set in the parameters: UCX stays inside the slice of a safe posting
exactly if the last datatype that was set reaches no further, and a datatype of
`dt_make_contig` does so only for sizes of at most one or an empty slice, an I/O vector
only for an empty slice. -/
theorem postings_stay_within_iff (others : Word → Nat → Nat) :
    (∀ (posting : Posting) (setters : List Setter),
      StaysWithin others posting.slice
          (posting.program (setters.foldl apply .new).build) ↔
        ∀ told, posting.datatypeOf (lastSet (fun setter => sets setter .datatype) setters) =
            some told →
          extent others told posting.slice.length ≤ posting.slice.length) ∧
    (∀ elemSize count, extent others (dtMakeContig elemSize) count ≤ count ↔
      elemSize % 2 ^ 61 ≤ 1 ∨ count = 0) ∧
    ∀ count, extent others dtMakeIov count ≤ count ↔ count = 0 := by
  refine ⟨fun posting setters => ?_, extent_dtMakeContig_le_iff, extent_dtMakeIov_le_iff⟩
  rw [staysWithin_program_iff, effectiveDatatype_build]

-- eight bytes are written behind a slice of one
example : extent (fun _ _ => 0) (dtMakeContig 8) 1 = 8 := by
  decide

end BufferExtents

end UcxRs
