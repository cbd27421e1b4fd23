import UcxRs.AtomicOperations
import UcxRs.BuilderVisibility
import UcxRs.WorkerCalls

/-!
# Parameter fields that the wrapper fills in itself

UCX looks at a field of a request parameter block only when the field's bit is
in the mask.  The builder sets both; `Ep::close` and the deprecated atomic
functions store a field directly and leave the mask as it is, and the methods
`Ep::amo_f*` build their own block.  Here each of them is compared with what it
was asked to pass on.
-/

namespace UcxRs

namespace VisibleParameters

open Interaction (Environment)
open Interaction.Program
open MaskedFields
open RequestParamBuilder (Field layout)

/-- The request parameters that a call passes. -/
def paramPassed : Call → Option UcpRequestParam
  | .ucpWorkerFlushNbx _ param => some param
  | .ucpTagSendNbx _ _ _ param => some param
  | .ucpTagSendSyncNbx _ _ _ param => param
  | .ucpTagRecvNbx _ _ _ _ param => some param
  | .ucpTagMsgRecvNbx _ _ _ param => some param
  | .ucpStreamSendNbx _ _ param => some param
  | .ucpStreamRecvNbx _ _ param => some param
  | .ucpAmSendNbx _ _ _ _ param => some param
  | .ucpAmRecvDataNbx _ _ _ param => param
  | .ucpPutNbx _ _ _ _ param => some param
  | .ucpGetNbx _ _ _ _ param => some param
  | .ucpAtomicOpNbx _ _ _ _ _ _ param => some param
  | .ucpEpFlushNbx _ param => some param
  | .ucpEpCloseNbx _ param => some param
  | _ => none

variable {Result : Type}

/-- Whatever UCX answers, the program passes one block of request parameters. -/
def Hands (program : Ffi Result) (block : UcpRequestParam) : Prop :=
  ∀ environment : Environment Call Answer,
    (program.execute environment []).calls.filterMap paramPassed = [block]

/-- The block is passed with the first call and no other is passed later. -/
theorem hands_issue {call : Call} {block : UcpRequestParam}
    (passes : paramPassed call = some block) {resume : Answer call → Ffi Result}
    (later : ∀ answer, (resume answer).EveryCall fun call => paramPassed call = none) :
    Hands (.issue call resume) block := by
  intro environment
  cases answered : environment [] call with
  | none =>
      rw [execute_issue_none answered, List.filterMap_cons, passes]
      rfl
  | some answer =>
      rw [execute_issue_some answered]
      change ([call] ++ _).filterMap paramPassed = _
      rw [List.filterMap_append, List.filterMap_cons, passes]
      have quiet : ((resume answer).execute environment ([] ++ [call])).calls.filterMap
          paramPassed = [] := by
        rw [List.filterMap_eq_nil_iff]
        exact fun request member => (later answer).of_mem_calls member
      rw [quiet]
      rfl

/-- A program passes one block only. -/
theorem Hands.unique {program : Ffi Result} {first second : UcpRequestParam}
    (handsFirst : Hands program first) (handsSecond : Hands program second) :
    first = second := by
  have same := (handsFirst fun _ _ => none).symm.trans (handsSecond fun _ _ => none)
  exact (List.cons.inj same).1

/-- The block handed to UCX shows a field with the given value and is otherwise
seen as the caller's. -/
def Delivers (program : Ffi Result) (caller : RequestParam) (field : Field)
    (value : field.Value) : Prop :=
  ∃ block, Hands program block ∧ layout.view ⟨block⟩ field = some value ∧
    ∀ other, other ≠ field → layout.view ⟨block⟩ other = layout.view caller other

/-- A block in which one field was stored and nothing else was touched. -/
structure StoresOnly (caller : RequestParam) (block : UcpRequestParam) (field : Field)
    (value : field.Value) : Prop where
  mask : block.opAttrMask = caller.handle.opAttrMask
  stored : layout.value ⟨block⟩ field = value
  kept : ∀ other, other ≠ field → layout.value ⟨block⟩ other = layout.value caller other

namespace StoresOnly

variable {caller : RequestParam} {block : UcpRequestParam} {field : Field}
  {value : field.Value}

theorem shows_iff (stores : StoresOnly caller block field value) (other : Field) :
    layout.Shows ⟨block⟩ other ↔ layout.Shows caller other := by
  unfold Layout.Shows
  rw [show layout.mask ⟨block⟩ = layout.mask caller from stores.mask]

/-- The other fields are seen as before. -/
theorem view_other (stores : StoresOnly caller block field value) {other : Field}
    (differs : other ≠ field) : layout.view ⟨block⟩ other = layout.view caller other := by
  unfold Layout.view
  rw [stores.kept other differs]
  exact if_congr (stores.shows_iff other) rfl rfl

/-- A field that is stored beside the mask is seen exactly if the caller's mask
shows it. -/
theorem delivers_iff (stores : StoresOnly caller block field value)
    {program : Ffi Result} (hands : Hands program block) :
    Delivers program caller field value ↔ layout.Shows caller field := by
  constructor
  · rintro ⟨other, handsOther, seen, _⟩
    obtain rfl := handsOther.unique hands
    unfold Layout.view at seen
    by_contra hidden
    rw [if_neg ((stores.shows_iff field).not.mpr hidden)] at seen
    cases seen
  · intro shown
    refine ⟨block, hands, ?_, fun other differs => stores.view_other differs⟩
    unfold Layout.view
    rw [if_pos ((stores.shows_iff field).mpr shown), stores.stored]

end StoresOnly

/-- Parameters in which nothing was set. -/
def noParams : RequestParam := RequestParamBuilder.new.build

theorem hands_close (ep : Ep) (worker : Worker) (flags : BitVec 32) :
    Hands (ep.close worker flags) { UcpRequestParam.zeroed with flags := flags } := by
  refine hands_issue rfl fun (ptr : Word) => ?_
  rcases resultEq : statusPtrToResult ptr with error | _ | request
  · simp only [Interaction.Program.andThen, resultEq]
    exact everyCall_done _ _
  · simp only [Interaction.Program.andThen, resultEq]
    exact everyCall_done _ _
  · simp only [Interaction.Program.andThen, resultEq]
    exact WorkerWorld.everyCall_awaitClose request worker (fun _ => rfl) rfl fun _ => rfl

/-- `Ep::close` never shows its flags. -/
theorem close_not_delivers (ep : Ep) (worker : Worker) (flags : BitVec 32) :
    ¬ Delivers (ep.close worker flags) noParams .flags flags := by
  have stores : StoresOnly noParams { UcpRequestParam.zeroed with flags := flags } .flags
      flags := by
    refine ⟨rfl, rfl, fun other differs => ?_⟩
    cases other with
    | flags => exact absurd rfl differs
    | _ => rfl
  rw [stores.delivers_iff (hands_close ep worker flags)]
  decide

/-- The block of `fetch_params` shows the reply and nothing else. -/
theorem amoFetch_delivers (ep : Ep) (worker : Worker) (opcode : UcpAtomicOp)
    (operand : List (BitVec 8)) (size : Nat) (remoteAddr : Word) (rkey : RemoteKey)
    (reply : Word) :
    Delivers (ep.amoFetch worker opcode operand size remoteAddr rkey reply) noParams
      .replyBuffer reply := by
  have seen := fun field => RequestParamBuilder.advertises.view_apply
    RequestParamBuilder.new (.replyBuffer reply) field
  refine ⟨(RequestParam.fetchParams reply).handle,
    hands_issue rfl fun _ => everyCall_done _ _, seen .replyBuffer, fun other differs => ?_⟩
  refine (seen other).trans ?_
  cases other with
  | replyBuffer => exact absurd rfl differs
  | _ => rfl

theorem fetchMethod_delivers (method : FetchMethod) (ep : Ep) (worker : Worker)
    (remoteAddr : Word) (rkey : RemoteKey) (reply : Word) :
    Delivers (method.post ep worker remoteAddr rkey reply) noParams .replyBuffer reply := by
  cases method with
  | _ => exact amoFetch_delivers ep worker _ _ _ remoteAddr rkey reply

/-- The typed functions of `rma::atomic`, with their operand words and the reply
buffer that a fetching function takes. -/
inductive TypedFunction where
  | atomicFadd32 (operand : BitVec 32) (replyBuffer : Word)
  | atomicFadd64 (operand : BitVec 64) (replyBuffer : Word)
  | atomicFswap32 (operand : BitVec 32) (replyBuffer : Word)
  | atomicFswap64 (operand : BitVec 64) (replyBuffer : Word)
  | atomicFcswap32 (expected replacement : BitVec 32) (replyBuffer : Word)
  | atomicFcswap64 (expected replacement : BitVec 64) (replyBuffer : Word)
  | atomicAdd32 (operand : BitVec 32)
  | atomicAdd64 (operand : BitVec 64)
  | atomicSwap32 (operand : BitVec 32)
  | atomicSwap64 (operand : BitVec 64)
  | atomicFxor32 (operand : BitVec 32) (replyBuffer : Word)
  | atomicFxor64 (operand : BitVec 64) (replyBuffer : Word)
  | atomicXor32 (operand : BitVec 32)
  | atomicXor64 (operand : BitVec 64)

namespace TypedFunction

/-- The width of an operand word in bytes. -/
def width : TypedFunction → Nat
  | atomicFadd32 _ _ | atomicFswap32 _ _ | atomicFcswap32 _ _ _ | atomicFxor32 _ _ => 4
  | atomicAdd32 _ | atomicSwap32 _ | atomicXor32 _ => 4
  | atomicFadd64 _ _ | atomicFswap64 _ _ | atomicFcswap64 _ _ _ | atomicFxor64 _ _ => 8
  | atomicAdd64 _ | atomicSwap64 _ | atomicXor64 _ => 8

/-- The call of a typed function. -/
def program (ep : Ep) (remoteAddr : Word) (rkey : RemoteKey) (param : RequestParam) :
    TypedFunction → Ffi (Except Status (Option Request))
  | atomicFadd32 operand reply => UcxRs.atomicFadd32 ep remoteAddr rkey param operand reply
  | atomicFadd64 operand reply => UcxRs.atomicFadd64 ep remoteAddr rkey param operand reply
  | atomicFswap32 operand reply => UcxRs.atomicFswap32 ep remoteAddr rkey param operand reply
  | atomicFswap64 operand reply => UcxRs.atomicFswap64 ep remoteAddr rkey param operand reply
  | atomicFcswap32 expected replacement reply =>
      UcxRs.atomicFcswap32 ep remoteAddr rkey param expected replacement reply
  | atomicFcswap64 expected replacement reply =>
      UcxRs.atomicFcswap64 ep remoteAddr rkey param expected replacement reply
  | atomicAdd32 operand => UcxRs.atomicAdd32 ep remoteAddr rkey param operand
  | atomicAdd64 operand => UcxRs.atomicAdd64 ep remoteAddr rkey param operand
  | atomicSwap32 operand => UcxRs.atomicSwap32 ep remoteAddr rkey param operand
  | atomicSwap64 operand => UcxRs.atomicSwap64 ep remoteAddr rkey param operand
  | atomicFxor32 operand reply => UcxRs.atomicFxor32 ep remoteAddr rkey param operand reply
  | atomicFxor64 operand reply => UcxRs.atomicFxor64 ep remoteAddr rkey param operand reply
  | atomicXor32 operand => UcxRs.atomicXor32 ep remoteAddr rkey param operand
  | atomicXor64 operand => UcxRs.atomicXor64 ep remoteAddr rkey param operand

end TypedFunction

section Typed

variable (ep : Ep) (opcode : AtomicOp) (operand : List (BitVec 8)) (elemSize : Nat)
  (remoteAddr : Word) (rkey : RemoteKey) (param : RequestParam)

theorem storesOnly_datatype (datatype : Word) :
    StoresOnly param { param.handle with datatype := datatype } .datatype datatype := by
  refine ⟨rfl, rfl, fun other differs => ?_⟩
  cases other with
  | datatype => exact absurd rfl differs
  | _ => rfl

theorem hands_atomicTyped :
    Hands (atomicTyped ep opcode operand elemSize remoteAddr rkey param)
      { param.handle with datatype := dtMakeContig elemSize } :=
  hands_issue rfl fun _ => everyCall_done _ _

theorem atomicTyped_delivers_iff :
    Delivers (atomicTyped ep opcode operand elemSize remoteAddr rkey param) param .datatype
      (dtMakeContig elemSize) ↔ layout.Shows param .datatype :=
  (storesOnly_datatype param _).delivers_iff
    (hands_atomicTyped ep opcode operand elemSize remoteAddr rkey param)

/-- Whatever the mask, the other fields are seen as the caller's. -/
theorem atomicTyped_keeps_others :
    ∃ block, Hands (atomicTyped ep opcode operand elemSize remoteAddr rkey param) block ∧
      ∀ other, other ≠ .datatype →
        layout.view ⟨block⟩ other = layout.view param other := by
  have stores := storesOnly_datatype param (dtMakeContig elemSize)
  exact ⟨_, hands_atomicTyped ep opcode operand elemSize remoteAddr rkey param,
    fun other differs => stores.view_other differs⟩

end Typed

namespace TypedFunction

variable (function : TypedFunction) (ep : Ep) (remoteAddr : Word) (rkey : RemoteKey)
  (param : RequestParam)

theorem delivers_iff :
    Delivers (function.program ep remoteAddr rkey param) param .datatype
      (dtMakeContig function.width) ↔ layout.Shows param .datatype := by
  cases function with
  | _ => exact atomicTyped_delivers_iff ep _ _ _ remoteAddr rkey param

theorem keeps_others :
    ∃ block, Hands (function.program ep remoteAddr rkey param) block ∧
      ∀ other, other ≠ .datatype →
        layout.view ⟨block⟩ other = layout.view param other := by
  cases function with
  | _ => exact atomicTyped_keeps_others ep _ _ _ remoteAddr rkey param

end TypedFunction

/-- `Ep::close` delivers its flags only if there are none, the fetching methods
deliver every reply location, and a typed function delivers its datatype exactly
if the caller's mask already shows a datatype; it keeps the rest of the caller's
parameters in any case. -/
theorem written_fields_delivered_iff (ep : Ep) (worker : Worker) (remoteAddr : Word)
    (rkey : RemoteKey) :
    (∀ flags : BitVec 32,
      (flags ≠ 0 → Delivers (ep.close worker flags) noParams .flags flags) ↔ flags = 0) ∧
    (∀ (method : FetchMethod) (reply : Word),
      Delivers (method.post ep worker remoteAddr rkey reply) noParams .replyBuffer
        reply) ∧
    ∀ (function : TypedFunction) (param : RequestParam),
      (Delivers (function.program ep remoteAddr rkey param) param .datatype
        (dtMakeContig function.width) ↔ layout.Shows param .datatype) ∧
      ∃ block, Hands (function.program ep remoteAddr rkey param) block ∧
        ∀ other, other ≠ .datatype →
          layout.view ⟨block⟩ other = layout.view param other := by
  refine ⟨fun flags => ?_,
    fun method reply => fetchMethod_delivers method ep worker remoteAddr rkey reply,
    fun function param => ⟨function.delivers_iff ep remoteAddr rkey param,
      function.keeps_others ep remoteAddr rkey param⟩⟩
  constructor
  · intro delivers
    by_contra nonzero
    exact close_not_delivers ep worker flags (delivers nonzero)
  · exact fun zero nonzero => absurd zero nonzero

/-- A forced close reaches UCX as an ordinary one, and an atomic addition without
the size of its operand. -/
theorem forced_close_not_delivered :
    ¬ Delivers (Ep.close ⟨⟨0x1000⟩, ⟨0⟩⟩ ⟨⟨0x3000⟩, ⟨0⟩⟩ 1) noParams .flags 1 ∧
      ¬ Delivers (atomicAdd64 ⟨⟨0x1000⟩, ⟨0⟩⟩ 0x8000 ⟨⟨0x4000⟩, ⟨0⟩⟩ noParams 1) noParams
        .datatype (dtMakeContig 8) := by
  refine ⟨close_not_delivers _ _ 1, ?_⟩
  have never : ¬ layout.Shows noParams .datatype := by decide
  exact (atomicTyped_delivers_iff _ _ _ 8 _ _ noParams).not.mpr never

end VisibleParameters

end UcxRs
