import UcxRs.NamedBuilders
import UcxRs.TransitionRuns

/-!
# Parameter builders show what was set

UCX looks at a field of a parameter block only when the field's bit is in the
mask.  For each of the ten builders this file lists the setters, the masked
fields of the block and the fields that each setter sets, and shows that after
any setter calls and one build UCX sees exactly the fields that were set, with
the values of their last setters.
-/

namespace UcxRs

open MaskedFields

namespace MemMapParamsBuilder

inductive Setter where
  | address (addr : Word)
  | addressSlice (slice : Buffer)
  | length (len : Nat)
  | flags (flags : BitVec 32)
  | prot (prot : BitVec 32)
  | memoryType (memType : MemoryType)
  | exportedMemhBuffer (buffer : Word)

def apply (builder : MemMapParamsBuilder) : Setter → MemMapParamsBuilder
  | .address addr => builder.address addr
  | .addressSlice slice => builder.addressSlice slice
  | .length len => builder.length len
  | .flags flags => builder.flags flags
  | .prot prot => builder.prot prot
  | .memoryType memType => builder.memoryType memType
  | .exportedMemhBuffer buffer => builder.exportedMemhBuffer buffer

inductive Field where
  | address
  | length
  | flags
  | prot
  | memoryType
  | exportedMemhBuffer
  deriving DecidableEq

abbrev Field.Value : Field → Type
  | address => Word
  | length => Nat
  | flags => BitVec 32
  | prot => BitVec 32
  | memoryType => UcsMemoryType
  | exportedMemhBuffer => Word

def layout : Layout MemMapParams Field Field.Value 64 where
  mask params := params.handle.fieldMask
  bit
    | .address => UcpMemMapParam.fieldAddress
    | .length => UcpMemMapParam.fieldLength
    | .flags => UcpMemMapParam.fieldFlags
    | .prot => UcpMemMapParam.fieldProt
    | .memoryType => UcpMemMapParam.fieldMemoryType
    | .exportedMemhBuffer => UcpMemMapParam.fieldExportedMemhBuffer
  value params
    | .address => params.handle.address
    | .length => params.handle.length
    | .flags => params.handle.flags
    | .prot => params.handle.prot
    | .memoryType => params.handle.memoryType
    | .exportedMemhBuffer => params.handle.exportedMemhBuffer

def sets : Setter → (field : Field) → Option (Field.Value field)
  | .address addr, .address => some addr
  | .addressSlice slice, .address => some slice.address
  | .addressSlice slice, .length => some slice.length
  | .length len, .length => some len
  | .flags flags, .flags => some flags
  | .prot prot, .prot => some prot
  | .memoryType memType, .memoryType => some memType.toFfi
  | .exportedMemhBuffer buffer, .exportedMemhBuffer => some buffer
  | _, _ => none

def targets : Setter → List Field
  | .address _ => [.address]
  | .addressSlice _ => [.address, .length]
  | .length _ => [.length]
  | .flags _ => [.flags]
  | .prot _ => [.prot]
  | .memoryType _ => [.memoryType]
  | .exportedMemhBuffer _ => [.exportedMemhBuffer]

theorem separate : layout.Separate := by
  intro first second
  cases first <;> cases second <;> decide

theorem advertises : Advertises layout build apply sets := by
  apply Advertises.of_targets separate targets
  · intro builder setter
    cases setter <;> rfl
  · intro setter field
    cases setter <;> cases field <;> simp [sets, targets]
  · intro builder setter field
    cases setter <;> cases field <;> rfl

theorem showsLastSet : ShowsLastSet layout build apply sets new :=
  advertises.showsLastSet rfl

end MemMapParamsBuilder

namespace MemAdviseParamsBuilder

inductive Setter where
  | address (addr : Word)
  | length (len : Nat)
  | advice (advice : MemAdvice)

def apply (builder : MemAdviseParamsBuilder) : Setter → MemAdviseParamsBuilder
  | .address addr => builder.address addr
  | .length len => builder.length len
  | .advice advice => builder.advice advice

inductive Field where
  | address
  | length
  | advice
  deriving DecidableEq

abbrev Field.Value : Field → Type
  | address => Word
  | length => Nat
  | advice => UcpMemAdvice

def layout : Layout MemAdviseParams Field Field.Value 64 where
  mask params := params.handle.fieldMask
  bit
    | .address => UcpMemAdviseParam.fieldAddress
    | .length => UcpMemAdviseParam.fieldLength
    | .advice => UcpMemAdviseParam.fieldAdvice
  value params
    | .address => params.handle.address
    | .length => params.handle.length
    | .advice => params.handle.advice

def sets : Setter → (field : Field) → Option (Field.Value field)
  | .address addr, .address => some addr
  | .length len, .length => some len
  | .advice advice, .advice => some advice.toFfi
  | _, _ => none

def targets : Setter → List Field
  | .address _ => [.address]
  | .length _ => [.length]
  | .advice _ => [.advice]

theorem separate : layout.Separate := by
  intro first second
  cases first <;> cases second <;> decide

theorem advertises : Advertises layout build apply sets := by
  apply Advertises.of_targets separate targets
  · intro builder setter
    cases setter <;> rfl
  · intro setter field
    cases setter <;> cases field <;> simp [sets, targets]
  · intro builder setter field
    cases setter <;> cases field <;> rfl

theorem showsLastSet : ShowsLastSet layout build apply sets new :=
  advertises.showsLastSet rfl

end MemAdviseParamsBuilder

namespace MemhPackParamsBuilder

inductive Setter where
  | flags (flags : BitVec 64)

def apply (builder : MemhPackParamsBuilder) : Setter → MemhPackParamsBuilder
  | .flags flags => builder.flags flags

inductive Field where
  | flags
  deriving DecidableEq

def layout : Layout MemhPackParams Field (fun _ => BitVec 64) 64 where
  mask params := params.handle.fieldMask
  bit _ := UcpMemhPackParam.fieldFlags
  value params _ := params.handle.flags

def sets : Setter → Field → Option (BitVec 64)
  | .flags flags, .flags => some flags

theorem separate : layout.Separate := by
  intro first second
  cases first
  cases second
  decide

theorem advertises : Advertises layout build apply sets := by
  apply Advertises.of_targets separate fun _ => [.flags]
  · intro builder setter
    rfl
  · intro setter field
    cases field
    simp [sets]
  · intro builder setter field
    rfl

theorem showsLastSet : ShowsLastSet layout build apply sets new :=
  advertises.showsLastSet rfl

end MemhPackParamsBuilder

namespace HandlerParamsBuilder

inductive Setter where
  | id (id : BitVec 32)
  | flags (flags : CbFlags)
  | cb (cb : Word)
  | arg (arg : Word)

def apply (builder : HandlerParamsBuilder) : Setter → HandlerParamsBuilder
  | .id id => builder.id id
  | .flags flags => builder.flags flags
  | .cb cb => builder.cb cb
  | .arg arg => builder.arg arg

inductive Field where
  | id
  | flags
  | cb
  | arg
  deriving DecidableEq

abbrev Field.Value : Field → Type
  | id => BitVec 32
  | flags => BitVec 32
  | cb => Word
  | arg => Word

def layout : Layout HandlerParams Field Field.Value 64 where
  mask params := params.handle.fieldMask
  bit
    | .id => UcpAmHandlerParamField.fieldId
    | .flags => UcpAmHandlerParamField.fieldFlags
    | .cb => UcpAmHandlerParamField.fieldCb
    | .arg => UcpAmHandlerParamField.fieldArg
  value params
    | .id => params.handle.id
    | .flags => params.handle.flags
    | .cb => params.handle.cb
    | .arg => params.handle.arg

def sets : Setter → (field : Field) → Option (Field.Value field)
  | .id id, .id => some id
  | .flags flags, .flags => some flags.bits
  | .cb cb, .cb => some cb
  | .arg arg, .arg => some arg
  | _, _ => none

def targets : Setter → List Field
  | .id _ => [.id]
  | .flags _ => [.flags]
  | .cb _ => [.cb]
  | .arg _ => [.arg]

theorem separate : layout.Separate := by
  intro first second
  cases first <;> cases second <;> decide

theorem advertises : Advertises layout build apply sets := by
  apply Advertises.of_targets separate targets
  · intro builder setter
    cases setter <;> rfl
  · intro setter field
    cases setter <;> cases field <;> simp [sets, targets]
  · intro builder setter field
    cases setter <;> cases field <;> rfl

theorem showsLastSet : ShowsLastSet layout build apply sets new :=
  advertises.showsLastSet rfl

end HandlerParamsBuilder

namespace Listener.ParamsBuilder

inductive Setter where
  | sockaddr (addr : SockAddr)
  | acceptHandler (callback arg : Word)
  | connHandler (callback arg : Word)

def apply (builder : ParamsBuilder) : Setter → ParamsBuilder
  | .sockaddr addr => builder.sockaddr addr
  | .acceptHandler callback arg => builder.acceptHandler callback arg
  | .connHandler callback arg => builder.connHandler callback arg

inductive Field where
  | sockAddr
  | acceptHandler
  | connHandler
  deriving DecidableEq

abbrev Field.Value : Field → Type
  | sockAddr => UcsSockAddr
  | acceptHandler => UcpListenerHandler
  | connHandler => UcpListenerHandler

def layout : Layout ListenerParams Field Field.Value 64 where
  mask params := params.params.fieldMask
  bit
    | .sockAddr => UcpListenerParam.fieldSockAddr
    | .acceptHandler => UcpListenerParam.fieldAcceptHandler
    | .connHandler => UcpListenerParam.fieldConnHandler
  value params
    | .sockAddr => params.params.sockaddr
    | .acceptHandler => params.params.acceptHandler
    | .connHandler => params.params.connHandler

def sets : Setter → (field : Field) → Option (Field.Value field)
  | .sockaddr addr, .sockAddr => some addr.toFfi
  | .acceptHandler callback arg, .acceptHandler => some ⟨callback, arg⟩
  | .connHandler callback arg, .connHandler => some ⟨callback, arg⟩
  | _, _ => none

def targets : Setter → List Field
  | .sockaddr _ => [.sockAddr]
  | .acceptHandler _ _ => [.acceptHandler]
  | .connHandler _ _ => [.connHandler]

theorem separate : layout.Separate := by
  intro first second
  cases first <;> cases second <;> decide

theorem advertises : Advertises layout build apply sets := by
  apply Advertises.of_targets separate targets
  · intro builder setter
    cases setter <;> rfl
  · intro setter field
    cases setter <;> cases field <;> simp [sets, targets]
  · intro builder setter field
    cases setter <;> cases field <;> rfl

theorem showsLastSet : ShowsLastSet layout build apply sets new :=
  advertises.showsLastSet rfl

end Listener.ParamsBuilder

namespace ModifyParamsBuilder

inductive Setter where
  | errHandler (cb : Word)
  | errHandlerArg (ptr : Word)
  | userData (ptr : Word)

def apply (builder : ModifyParamsBuilder) : Setter → ModifyParamsBuilder
  | .errHandler cb => builder.errHandler cb
  | .errHandlerArg ptr => builder.errHandlerArg ptr
  | .userData ptr => builder.userData ptr

/-- The parameters own no name. -/
def layout : Layout ModifyParams Ep.Field Ep.Field.Value 64 :=
  Ep.layoutOf ModifyParams.handle fun _ => none

def sets : Setter → (field : Ep.Field) → Option (Ep.Field.Value field)
  | .errHandler cb, .errHandler => some cb
  | .userData ptr, .userData => some ptr
  | _, _ => none

def setsErrHandlerArg : Setter → Option Word
  | .errHandlerArg ptr => some ptr
  | _ => none

def targets : Setter → List Ep.Field
  | .errHandler _ => [.errHandler]
  | .errHandlerArg _ => []
  | .userData _ => [.userData]

theorem advertises : Advertises layout build apply sets := by
  apply Advertises.of_targets Ep.separate targets
  · intro builder setter
    cases setter <;> rfl
  · intro setter field
    cases setter <;> cases field <;> simp [sets, targets]
  · intro builder setter field
    cases setter <;> cases field <;> rfl

theorem showsLastSet : ShowsLastSet layout build apply sets new :=
  advertises.showsLastSet rfl

theorem errHandlerArg_foldl (setters : List Setter) :
    (setters.foldl apply new).build.handle.errHandler.arg =
      (lastSet setsErrHandlerArg setters).getD 0 := by
  refine @foldl_eq_lastSet _ _ _ apply (fun builder => builder.build.handle.errHandler.arg) _
    (fun builder setter => ?_) new setters
  cases setter <;> rfl

end ModifyParamsBuilder

namespace RequestParamBuilder

inductive Setter where
  | forceImmCmpl
  | noImmCmpl
  | flags (flags : BitVec 32)
  | replyBuffer (buf : Word)
  | datatype (dt : BitVec 64)
  | sendCallback (cb : Word)
  | memoryType (mt : MemoryType)

/-- A setter call; `none` is its panic. -/
def call (builder : RequestParamBuilder) : Setter → Option RequestParamBuilder
  | .forceImmCmpl => builder.forceImmCmpl
  | .noImmCmpl => builder.noImmCmpl
  | .flags flags => some (builder.flags flags)
  | .replyBuffer buf => some (builder.replyBuffer buf)
  | .datatype dt => some (builder.datatype dt)
  | .sendCallback cb => some (builder.sendCallback cb)
  | .memoryType mt => some (builder.memoryType mt)

/-- A setter call leaves the builder alone when it panics. -/
def apply (builder : RequestParamBuilder) (setter : Setter) : RequestParamBuilder :=
  (builder.call setter).getD builder

/-- The fields of `ucp_request_param_t`; no setter sets the last four. -/
inductive Field where
  | flags
  | replyBuffer
  | datatype
  | callback
  | memoryType
  | request
  | userData
  | recvInfo
  | memh
  deriving DecidableEq

abbrev Field.Value : Field → Type
  | flags => BitVec 32
  | replyBuffer => Word
  | datatype => Word
  | callback => Word
  | memoryType => UcsMemoryType
  | request => Word
  | userData => Word
  | recvInfo => Word
  | memh => Word

def layout : Layout RequestParam Field Field.Value 32 where
  mask params := params.handle.opAttrMask
  bit
    | .flags => UcpOpAttr.fieldFlags
    | .replyBuffer => UcpOpAttr.fieldReplyBuffer
    | .datatype => UcpOpAttr.fieldDatatype
    | .callback => UcpOpAttr.fieldCallback
    | .memoryType => UcpOpAttr.fieldMemoryType
    | .request => UcpOpAttr.fieldRequest
    | .userData => UcpOpAttr.fieldUserData
    | .recvInfo => UcpOpAttr.fieldRecvInfo
    | .memh => UcpOpAttr.fieldMemh
  value params
    | .flags => params.handle.flags
    | .replyBuffer => params.handle.replyBuffer
    | .datatype => params.handle.datatype
    | .callback => params.handle.cb
    | .memoryType => params.handle.memoryType
    | .request => params.handle.request
    | .userData => params.handle.userData
    | .recvInfo => params.handle.recvInfo
    | .memh => params.handle.memh

def sets : Setter → (field : Field) → Option (Field.Value field)
  | .flags flags, .flags => some flags
  | .replyBuffer buf, .replyBuffer => some buf
  | .datatype dt, .datatype => some dt
  | .sendCallback cb, .callback => some cb
  | .memoryType mt, .memoryType => some mt.toFfi
  | _, _ => none

def targets : Setter → List Field
  | .forceImmCmpl => []
  | .noImmCmpl => []
  | .flags _ => [.flags]
  | .replyBuffer _ => [.replyBuffer]
  | .datatype _ => [.datatype]
  | .sendCallback _ => [.callback]
  | .memoryType _ => [.memoryType]

/-- The flag that a setter adds and the flag that it does not go with. -/
def completionFlags : Setter → Option (BitVec 32 × BitVec 32)
  | .forceImmCmpl => some (UcpOpAttr.flagForceImmCmpl, UcpOpAttr.flagNoImmCmpl)
  | .noImmCmpl => some (UcpOpAttr.flagNoImmCmpl, UcpOpAttr.flagForceImmCmpl)
  | _ => none

theorem separate : layout.Separate := by
  intro first second
  cases first <;> cases second <;> decide

/-- The completion flags share no bit with a field. -/
theorem completionFlags_separate {setter : Setter} {added excluded : BitVec 32}
    (flags : completionFlags setter = some (added, excluded)) (field : Field) :
    added &&& layout.bit field = 0 := by
  cases setter with
  | forceImmCmpl =>
      cases flags
      cases field <;> decide
  | noImmCmpl =>
      cases flags
      cases field <;> decide
  | _ => cases flags

/-- A setter of a completion flag panics when the other one is set. -/
theorem call_of_completionFlags {setter : Setter} {added excluded : BitVec 32}
    (flags : completionFlags setter = some (added, excluded))
    (builder : RequestParamBuilder) :
    builder.call setter =
      if builder.fieldMask &&& excluded ≠ 0 then none
      else some { builder with fieldMask := builder.fieldMask ||| added } := by
  cases setter with
  | forceImmCmpl =>
      cases flags
      rfl
  | noImmCmpl =>
      cases flags
      rfl
  | _ => cases flags

/-- The other setters add the bits of the fields that they target. -/
theorem apply_mask_of_field {setter : Setter} (field : completionFlags setter = none)
    (builder : RequestParamBuilder) :
    (builder.apply setter).fieldMask = layout.addBits builder.fieldMask (targets setter) := by
  cases setter with
  | forceImmCmpl => cases field
  | noImmCmpl => cases field
  | _ => rfl

theorem apply_value (builder : RequestParamBuilder) (setter : Setter) (field : Field) :
    layout.value (builder.apply setter).build field =
      (sets setter field).getD (layout.value builder.build field) := by
  cases flags : completionFlags setter with
  | none =>
      cases setter with
      | forceImmCmpl => cases flags
      | noImmCmpl => cases flags
      | _ => cases field <;> rfl
  | some pair =>
      have unset : sets setter field = none := by
        cases setter with
        | forceImmCmpl => cases field <;> rfl
        | noImmCmpl => cases field <;> rfl
        | _ => cases flags
      rw [unset, apply, call_of_completionFlags flags]
      by_cases conflict : builder.fieldMask &&& pair.2 ≠ 0
      · rw [if_pos conflict]
        rfl
      · rw [if_neg conflict]
        cases field <;> rfl

theorem advertises : Advertises layout build apply sets := by
  refine ⟨fun builder setter => ?_, apply_value⟩
  cases flags : completionFlags setter with
  | none =>
      obtain ⟨bits, added, bitsIff⟩ :=
        layout.exists_added separate builder.fieldMask (targets setter)
      refine ⟨bits, (apply_mask_of_field flags builder).trans added, fun field => ?_⟩
      rw [bitsIff field]
      cases setter <;> cases field <;> simp [sets, targets]
  | some pair =>
      have unset : ∀ field, sets setter field = none := by
        intro field
        cases setter with
        | forceImmCmpl => cases field <;> rfl
        | noImmCmpl => cases field <;> rfl
        | _ => cases flags
      have adds : ∃ bits, (bits = 0 ∨ bits = pair.1) ∧
          (builder.apply setter).fieldMask = builder.fieldMask ||| bits := by
        rw [apply, call_of_completionFlags flags]
        by_cases conflict : builder.fieldMask &&& pair.2 ≠ 0
        · exact ⟨0, Or.inl rfl, by rw [if_pos conflict]; exact BitVec.or_zero.symm⟩
        · exact ⟨pair.1, Or.inr rfl, by rw [if_neg conflict]; rfl⟩
      obtain ⟨bits, which, maskEq⟩ := adds
      refine ⟨bits, maskEq, fun field => ?_⟩
      rw [unset field]
      refine iff_of_false (fun nonzero => nonzero ?_) Bool.false_ne_true
      rcases which with rfl | rfl
      · exact BitVec.zero_and
      · exact completionFlags_separate flags field

theorem showsLastSet : ShowsLastSet layout build apply sets new :=
  advertises.showsLastSet rfl

/-- No setter takes a flag away. -/
theorem flag_stays {builder : RequestParamBuilder} {flag : BitVec 32}
    (isSet : builder.fieldMask &&& flag ≠ 0) (setters : List Setter) :
    (List.foldl apply builder setters).fieldMask &&& flag ≠ 0 := by
  induction setters generalizing builder with
  | nil => exact isSet
  | cons setter setters ih =>
      obtain ⟨bits, added, -⟩ := advertises.mask builder setter
      have maskEq : (builder.apply setter).fieldMask = builder.fieldMask ||| bits := added
      refine ih ?_
      rw [maskEq, or_and_ne_zero_iff]
      exact .inl isSet

/-- A completion flag that was accepted is in the mask, and the setter of the other one
panics from then on, whatever is set in between. -/
theorem excludes_other {setter other : Setter} {added excluded : BitVec 32}
    (flags : completionFlags setter = some (added, excluded))
    (otherFlags : completionFlags other = some (excluded, added))
    {builder after : RequestParamBuilder} (accepted : builder.call setter = some after) :
    after.fieldMask = builder.fieldMask ||| added ∧
      ∀ setters, (List.foldl apply after setters).call other = none := by
  rw [call_of_completionFlags flags] at accepted
  obtain ⟨-, made⟩ := Option.ite_none_left_eq_some.mp accepted
  cases made
  refine ⟨rfl, fun setters => ?_⟩
  rw [call_of_completionFlags otherFlags, if_pos]
  refine flag_stays ((or_and_ne_zero_iff _ _ _).mpr (.inr ?_)) setters
  rw [BitVec.and_self]
  cases setter with
  | forceImmCmpl =>
      cases flags
      decide
  | noImmCmpl =>
      cases flags
      decide
  | _ => cases flags

/-- The mask does not ask for both completion modes. -/
def Compatible (mask : BitVec 32) : Prop :=
  ¬ (mask &&& UcpOpAttr.flagForceImmCmpl ≠ 0 ∧ mask &&& UcpOpAttr.flagNoImmCmpl ≠ 0)

theorem compatible_or {mask bits : BitVec 32} (compatible : Compatible mask)
    (noForce : bits &&& UcpOpAttr.flagForceImmCmpl = 0)
    (noNo : bits &&& UcpOpAttr.flagNoImmCmpl = 0) : Compatible (mask ||| bits) := by
  rintro ⟨force, no⟩
  rw [or_and_ne_zero_iff] at force no
  exact compatible ⟨force.resolve_right fun added => added noForce,
    no.resolve_right fun added => added noNo⟩

theorem compatible_apply {builder : RequestParamBuilder}
    (compatible : Compatible builder.fieldMask) (setter : Setter) :
    Compatible (builder.apply setter).fieldMask := by
  cases setter with
  | forceImmCmpl =>
      rw [apply, call_of_completionFlags rfl]
      by_cases conflict : builder.fieldMask &&& UcpOpAttr.flagNoImmCmpl ≠ 0
      · rw [if_pos conflict]
        exact compatible
      · rw [if_neg conflict]
        rintro ⟨_, no⟩
        rcases (or_and_ne_zero_iff _ _ _).mp no with before | added
        · exact conflict before
        · exact added (by decide)
  | noImmCmpl =>
      rw [apply, call_of_completionFlags rfl]
      by_cases conflict : builder.fieldMask &&& UcpOpAttr.flagForceImmCmpl ≠ 0
      · rw [if_pos conflict]
        exact compatible
      · rw [if_neg conflict]
        rintro ⟨force, _⟩
        rcases (or_and_ne_zero_iff _ _ _).mp force with before | added
        · exact conflict before
        · exact added (by decide)
  | _ => exact compatible_or compatible (by decide) (by decide)

/-- Builders and the parameters that they built. -/
structure Pool where
  builders : List RequestParamBuilder
  built : List RequestParam

/-- A step of safe code that handles request parameters. -/
inductive PoolStep where
  | new
  | clone (index : Nat)
  | call (index : Nat) (setter : Setter)
  | build (index : Nat)

def Pool.step (pool : Pool) : PoolStep → Option Pool
  | .new => some { pool with builders := pool.builders ++ [RequestParamBuilder.new] }
  | .clone index => do
      let builder ← pool.builders[index]?
      pure { pool with builders := pool.builders ++ [builder] }
  | .call index setter => do
      let builder ← pool.builders[index]?
      pure { pool with builders := pool.builders.set index (builder.apply setter) }
  | .build index => do
      let builder ← pool.builders[index]?
      pure { pool with built := pool.built ++ [builder.build] }

/-- Each builder and each block comes from some setter calls on a new builder,
and no mask asks for both completion modes. -/
structure Pool.Sound (pool : Pool) : Prop where
  builders : ∀ builder ∈ pool.builders,
    (∃ setters, builder = List.foldl apply new setters) ∧ Compatible builder.fieldMask
  built : ∀ params ∈ pool.built,
    (∃ setters, params = (List.foldl apply new setters).build) ∧
      Compatible params.handle.opAttrMask

theorem Pool.Sound.step {pool next : Pool} {label : PoolStep} (sound : pool.Sound)
    (stepEq : pool.step label = some next) : next.Sound := by
  cases label with
  | new =>
      cases stepEq
      refine ⟨fun builder member => ?_, sound.built⟩
      rcases List.mem_append.mp member with old | fresh
      · exact sound.builders builder old
      · obtain rfl := List.mem_singleton.mp fresh
        exact ⟨⟨[], rfl⟩, fun both => both.1 BitVec.zero_and⟩
  | clone index =>
      obtain ⟨builder, found, made⟩ := Option.bind_eq_some_iff.mp stepEq
      cases made
      refine ⟨fun other member => ?_, sound.built⟩
      rcases List.mem_append.mp member with old | fresh
      · exact sound.builders other old
      · obtain rfl := List.mem_singleton.mp fresh
        exact sound.builders other (List.mem_of_getElem? found)
  | call index setter =>
      obtain ⟨builder, found, made⟩ := Option.bind_eq_some_iff.mp stepEq
      cases made
      refine ⟨fun other member => ?_, sound.built⟩
      rcases List.mem_or_eq_of_mem_set member with old | changed
      · exact sound.builders other old
      · obtain ⟨⟨setters, made⟩, compatible⟩ :=
          sound.builders builder (List.mem_of_getElem? found)
        rw [changed]
        refine ⟨⟨setters ++ [setter], ?_⟩, compatible_apply compatible setter⟩
        rw [List.foldl_append, ← made]
        rfl
  | build index =>
      obtain ⟨builder, found, made⟩ := Option.bind_eq_some_iff.mp stepEq
      cases made
      refine ⟨sound.builders, fun params member => ?_⟩
      rcases List.mem_append.mp member with old | fresh
      · exact sound.built params old
      · obtain rfl := List.mem_singleton.mp fresh
        obtain ⟨⟨setters, made⟩, compatible⟩ :=
          sound.builders builder (List.mem_of_getElem? found)
        exact ⟨⟨setters, congrArg RequestParamBuilder.build made⟩, compatible⟩

/-- In every run that creates, clones, fills and builds request parameters. -/
theorem Pool.sound_of_reachable {pool : Pool}
    (reached : TransitionRuns.Reachable Pool.step ⟨[], []⟩ pool) : pool.Sound := by
  refine reached.invariant (fun sound stepEq => sound.step stepEq) ⟨?_, ?_⟩
  · intro builder member
    exact absurd member List.not_mem_nil
  · intro params member
    exact absurd member List.not_mem_nil

end RequestParamBuilder

/-- After any setter calls and one build, UCX sees exactly the fields that a
setter set, each with the value of its last successful setter; an error handler
goes with the last argument given for it.  A name with an interior zero leaves
its builder alone.  No request parameters, whatever builder they come from, ask
for both completion modes: a completion mode that was accepted is in the mask, and
the setter of the other one panics from then on. -/
theorem builders_show_what_was_set :
    (ShowsLastSet RequestParamBuilder.layout RequestParamBuilder.build
        RequestParamBuilder.apply RequestParamBuilder.sets RequestParamBuilder.new ∧
      ShowsLastSet MemMapParamsBuilder.layout MemMapParamsBuilder.build
        MemMapParamsBuilder.apply MemMapParamsBuilder.sets MemMapParamsBuilder.new ∧
      ShowsLastSet MemAdviseParamsBuilder.layout MemAdviseParamsBuilder.build
        MemAdviseParamsBuilder.apply MemAdviseParamsBuilder.sets MemAdviseParamsBuilder.new ∧
      ShowsLastSet MemhPackParamsBuilder.layout MemhPackParamsBuilder.build
        MemhPackParamsBuilder.apply MemhPackParamsBuilder.sets MemhPackParamsBuilder.new ∧
      ShowsLastSet HandlerParamsBuilder.layout HandlerParamsBuilder.build
        HandlerParamsBuilder.apply HandlerParamsBuilder.sets HandlerParamsBuilder.new ∧
      ShowsLastSet Context.ParamsBuilder.layout (fun builder => builder.build.1)
        Context.ParamsBuilder.apply Context.ParamsBuilder.sets Context.ParamsBuilder.new ∧
      ShowsLastSet Worker.ParamsBuilder.layout (fun builder => builder.build.1)
        Worker.ParamsBuilder.apply Worker.ParamsBuilder.sets Worker.ParamsBuilder.new ∧
      ShowsLastSet Ep.ParamsBuilder.layout (fun builder => builder.build.1)
        Ep.ParamsBuilder.apply Ep.ParamsBuilder.sets Ep.ParamsBuilder.new ∧
      ShowsLastSet Listener.ParamsBuilder.layout Listener.ParamsBuilder.build
        Listener.ParamsBuilder.apply Listener.ParamsBuilder.sets Listener.ParamsBuilder.new ∧
      ShowsLastSet ModifyParamsBuilder.layout ModifyParamsBuilder.build
        ModifyParamsBuilder.apply ModifyParamsBuilder.sets ModifyParamsBuilder.new) ∧
    ((∀ setters,
        (List.foldl Ep.ParamsBuilder.apply .new setters).build.1.handle.errHandler.arg =
          (lastSet Ep.ParamsBuilder.setsErrHandlerArg setters).getD 0) ∧
      ∀ setters,
        (List.foldl ModifyParamsBuilder.apply .new setters).build.handle.errHandler.arg =
          (lastSet ModifyParamsBuilder.setsErrHandlerArg setters).getD 0) ∧
    (∀ (allocation : NonNull) (name : List (BitVec 8)), 0 ∈ name →
      (∀ builder : Context.ParamsBuilder,
        builder.name allocation.val name = (.error ⟨⟩, builder)) ∧
      (∀ builder : Worker.ParamsBuilder,
        builder.name allocation.val name = (.error ⟨⟩, builder)) ∧
      ∀ builder : Ep.ParamsBuilder, builder.name allocation.val name = none ∧
        builder.apply (.name allocation name) = builder) ∧
    (∀ pool, TransitionRuns.Reachable RequestParamBuilder.Pool.step ⟨[], []⟩ pool →
      pool.Sound) ∧
    (∀ builder : RequestParamBuilder,
      (builder.forceImmCmpl = none ↔ builder.fieldMask &&& UcpOpAttr.flagNoImmCmpl ≠ 0) ∧
      (builder.noImmCmpl = none ↔ builder.fieldMask &&& UcpOpAttr.flagForceImmCmpl ≠ 0)) ∧
    (∀ builder after : RequestParamBuilder,
      (builder.forceImmCmpl = some after →
        after.fieldMask = builder.fieldMask ||| UcpOpAttr.flagForceImmCmpl ∧
          ∀ setters, (List.foldl RequestParamBuilder.apply after setters).noImmCmpl = none) ∧
      (builder.noImmCmpl = some after →
        after.fieldMask = builder.fieldMask ||| UcpOpAttr.flagNoImmCmpl ∧
          ∀ setters,
            (List.foldl RequestParamBuilder.apply after setters).forceImmCmpl = none)) := by
  refine ⟨⟨RequestParamBuilder.showsLastSet, MemMapParamsBuilder.showsLastSet,
    MemAdviseParamsBuilder.showsLastSet, MemhPackParamsBuilder.showsLastSet,
    HandlerParamsBuilder.showsLastSet, Context.ParamsBuilder.showsLastSet,
    Worker.ParamsBuilder.showsLastSet, Ep.ParamsBuilder.showsLastSet,
    Listener.ParamsBuilder.showsLastSet, ModifyParamsBuilder.showsLastSet⟩,
    ⟨Ep.ParamsBuilder.errHandlerArg_foldl, ModifyParamsBuilder.errHandlerArg_foldl⟩,
    ?_, fun pool => RequestParamBuilder.Pool.sound_of_reachable, ?_, ?_⟩
  · intro allocation name interior
    have nul : CString.new allocation.val name = none := if_pos interior
    refine ⟨fun builder => ?_, fun builder => ?_, fun builder => ⟨?_, ?_⟩⟩
    · simp [Context.ParamsBuilder.name, nul]
    · simp [Worker.ParamsBuilder.name, nul]
    · simp [Ep.ParamsBuilder.name, nul]
    · rw [Ep.ParamsBuilder.apply_name, nul]
      rfl
  · intro builder
    constructor
    · unfold RequestParamBuilder.forceImmCmpl
      simp
    · unfold RequestParamBuilder.noImmCmpl
      simp
  · intro builder after
    constructor
    · intro accepted
      exact @RequestParamBuilder.excludes_other .forceImmCmpl .noImmCmpl _ _ rfl rfl _ _ accepted
    · intro accepted
      exact @RequestParamBuilder.excludes_other .noImmCmpl .forceImmCmpl _ _ rfl rfl _ _ accepted

end UcxRs
