import UcxRs.MaskedFields
import UcxRs.ParameterBuilders

/-!
# Builders that own a name

The builders of endpoints, contexts and workers own a name, which moves into the
parameters when they are built.  For each of them this file lists the setters,
the masked fields of its block and the fields that each setter sets, and shows
that after any setter calls and one build UCX sees exactly the fields that were
set, with the values of their last successful setters.
-/

namespace UcxRs

open MaskedFields

/-- The bytes that UCX finds behind a name pointer: those of the string that the
parameters own, if the pointer is its address. -/
def readName (pointer : Word) (held : Option CString) : Option (List (BitVec 8)) :=
  match held with
  | some name => if name.address = pointer then some name.bytes else none
  | none => none

@[simp]
theorem readName_some (name : CString) : readName name.address (some name) = some name.bytes :=
  if_pos rfl

section Setters

variable {Builder Setter Params Field : Type} {Value : Field → Type}
  {layout : Layout Params Field Value 64} {build : Builder → Params}
  {apply : Builder → Setter → Builder}

/-- A change of the builder that adds the bits of its targets and sets those fields. -/
structure SetsTargets (layout : Layout Params Field Value 64) (build : Builder → Params)
    (change : Builder → Builder) (sets : (field : Field) → Option (Value field))
    (targets : List Field) : Prop where
  mask : ∀ builder, layout.mask (build (change builder)) =
    layout.addBits (layout.mask (build builder)) targets
  targeted : ∀ field, (sets field).isSome ↔ field ∈ targets
  value : ∀ builder field, layout.value (build (change builder)) field =
    (sets field).getD (layout.value (build builder) field)

theorem Advertises.of_setters {sets : Setter → (field : Field) → Option (Value field)}
    (separate : layout.Separate) (targets : Setter → List Field)
    (setsTargets : ∀ setter, SetsTargets layout build (fun builder => apply builder setter)
      (sets setter) (targets setter)) :
    Advertises layout build apply sets := by
  apply Advertises.of_targets separate targets
  · exact fun builder setter => (setsTargets setter).mask builder
  · exact fun setter => (setsTargets setter).targeted
  · exact fun builder setter => (setsTargets setter).value builder

/-- A setter of a name sets it if the string could be made, and changes nothing
otherwise. -/
theorem SetsTargets.of_made {change : Builder → Builder}
    {sets : (field : Field) → Option (Value field)} {made : Option CString}
    {withName : Builder → CString → Builder} {nameField : Field}
    (changes : ∀ builder, change builder = (made.map (withName builder)).getD builder)
    (setsNothing : made = none → ∀ field, sets field = none)
    (setsName : ∀ nameCs, made = some nameCs →
      SetsTargets layout build (fun builder => withName builder nameCs) sets [nameField]) :
    SetsTargets layout build change sets (if made.isSome then [nameField] else []) := by
  obtain rfl : change = fun builder => (made.map (withName builder)).getD builder :=
    funext changes
  cases made with
  | some nameCs => exact setsName nameCs rfl
  | none =>
      refine ⟨fun builder => ?_, fun field => ?_, fun builder field => ?_⟩
      · simp [Layout.addBits]
      · simp [setsNothing rfl field]
      · simp [setsNothing rfl field]

end Setters

namespace Ep

/-- The fields of `ucp_ep_params_t`.  An error handler is seen by its callback;
its argument goes along with it. -/
inductive Field where
  | remoteAddress
  | errHandlingMode
  | errHandler
  | userData
  | sockAddr
  | flags
  | connRequest
  | name
  | localSockAddr
  deriving DecidableEq

abbrev Field.Value : Field → Type
  | remoteAddress => Word
  | errHandlingMode => UcpErrHandlingMode
  | errHandler => Word
  | userData => Word
  | sockAddr => UcsSockAddr
  | flags => BitVec 32
  | connRequest => ConnRequestPointer
  | name => Option (List (BitVec 8))
  | localSockAddr => UcsSockAddr

/-- Parameters that hold a block and the string behind its name pointer. -/
def layoutOf {Block : Type} (handle : Block → UcpEpParams) (held : Block → Option CString) :
    Layout Block Field Field.Value 64 where
  mask params := (handle params).fieldMask
  bit
    | .remoteAddress => UcpEpParam.fieldRemoteAddress
    | .errHandlingMode => UcpEpParam.fieldErrHandlingMode
    | .errHandler => UcpEpParam.fieldErrHandler
    | .userData => UcpEpParam.fieldUserData
    | .sockAddr => UcpEpParam.fieldSockAddr
    | .flags => UcpEpParam.fieldFlags
    | .connRequest => UcpEpParam.fieldConnRequest
    | .name => UcpEpParam.fieldName
    | .localSockAddr => UcpEpParam.fieldLocalSockAddr
  value params
    | .remoteAddress => (handle params).address
    | .errHandlingMode => (handle params).errMode
    | .errHandler => (handle params).errHandler.cb
    | .userData => (handle params).userData
    | .sockAddr => (handle params).sockaddr
    | .flags => (handle params).flags
    | .connRequest => (handle params).connRequest
    | .name => readName (handle params).name (held params)
    | .localSockAddr => (handle params).localSockaddr

theorem separate {Block : Type} {handle : Block → UcpEpParams}
    {held : Block → Option CString} : (layoutOf handle held).Separate := by
  have bits : ∀ first second : Field,
      (layoutOf id fun _ => none).bit first &&& (layoutOf id fun _ => none).bit second ≠ 0 ↔
        second = first := by
    intro first second
    cases first <;> cases second <;> decide
  intro first second
  exact bits first second

namespace ParamsBuilder

inductive Setter where
  | address (workerAddress : RemoteWorkerAddress)
  | sockaddr (addr : SockAddr)
  | connRequest (request : ConnRequest)
  | paramsFlags (flags : ParamsFlags)
  | errMode (mode : ErrorHandlerMode)
  | errHandler (cb : Word)
  | errHandlerArg (ptr : Word)
  | userData (ptr : Word)
  | name (allocation : NonNull) (name : List (BitVec 8))

/-- A setter call, successful or not. -/
def apply (builder : ParamsBuilder) : Setter → ParamsBuilder
  | .address workerAddress => builder.address workerAddress
  | .sockaddr addr => builder.sockaddr addr
  | .connRequest request => builder.connRequest request
  | .paramsFlags flags => builder.paramsFlags flags
  | .errMode mode => builder.errMode mode
  | .errHandler cb => builder.errHandler cb
  | .errHandlerArg ptr => builder.errHandlerArg ptr
  | .userData ptr => builder.userData ptr
  | .name allocation name => (builder.name allocation.val name).getD builder

def layout : Layout Params Field Field.Value 64 :=
  layoutOf Params.handle Params.name

def sets : Setter → (field : Field) → Option (Field.Value field)
  | .address workerAddress, .remoteAddress => some workerAddress.getHandle.1
  | .sockaddr addr, .sockAddr => some addr.toFfi
  | .connRequest request, .connRequest => some request.handle
  | .paramsFlags flags, .flags => some (flags.bits.setWidth 32)
  | .errMode mode, .errHandlingMode => some mode.toFfi
  | .errHandler cb, .errHandler => some cb
  | .userData ptr, .userData => some ptr
  | .name allocation name, .name =>
      (CString.new allocation.val name).map fun nameCs => some nameCs.bytes
  | _, _ => none

/-- The argument that a setter gives to the error handler. -/
def setsErrHandlerArg : Setter → Option Word
  | .errHandlerArg ptr => some ptr
  | _ => none

def targets : Setter → List Field
  | .address _ => [.remoteAddress]
  | .sockaddr _ => [.sockAddr]
  | .connRequest _ => [.connRequest]
  | .paramsFlags _ => [.flags]
  | .errMode _ => [.errHandlingMode]
  | .errHandler _ => [.errHandler]
  | .errHandlerArg _ => []
  | .userData _ => [.userData]
  | .name allocation name => if (CString.new allocation.val name).isSome then [.name] else []

theorem build_fst (builder : ParamsBuilder) :
    builder.build.1 =
      { handle := { builder.uninitHandle with
          fieldMask := builder.fieldMask
          name := (builder.heldName.map CString.address).getD builder.uninitHandle.name }
        name := builder.heldName
        connRequest := builder.heldConnRequest } := by
  unfold build
  cases builder.heldName <;> rfl

/-- The builder with a name, as its setter leaves it. -/
def withName (builder : ParamsBuilder) (nameCs : CString) : ParamsBuilder :=
  { builder with
    fieldMask := builder.fieldMask ||| UcpEpParam.fieldName
    heldName := some nameCs }

theorem apply_name (allocation : NonNull) (name : List (BitVec 8)) (builder : ParamsBuilder) :
    builder.apply (.name allocation name) =
      ((CString.new allocation.val name).map builder.withName).getD builder := by
  cases made : CString.new allocation.val name <;>
    simp [apply, ParamsBuilder.name, withName, made]

theorem advertises : Advertises layout (fun builder => builder.build.1) apply sets := by
  simp only [build_fst]
  refine Advertises.of_setters separate targets fun setter => ?_
  cases setter with
  | name allocation name =>
      refine SetsTargets.of_made (apply_name allocation name) (fun nul field => ?_)
        fun nameCs made => ⟨fun builder => rfl, fun field => ?_, fun builder field => ?_⟩
      · cases field <;> simp [sets, nul]
      · cases field <;> simp [sets, made]
      · cases field <;> simp [sets, made, withName, layout, layoutOf]
  | _ =>
      refine ⟨fun builder => rfl, fun field => ?_, fun builder field => ?_⟩
      · cases field <;> simp [sets, targets]
      · cases field <;> rfl

theorem showsLastSet :
    ShowsLastSet layout (fun builder => builder.build.1) apply sets new :=
  advertises.showsLastSet rfl

/-- The argument of the error handler is the last one given, or null. -/
theorem errHandlerArg_foldl (setters : List Setter) :
    (setters.foldl apply new).build.1.handle.errHandler.arg =
      (lastSet setsErrHandlerArg setters).getD 0 := by
  refine @foldl_eq_lastSet _ _ _ apply (fun builder => builder.build.1.handle.errHandler.arg) _
    (fun builder setter => ?_) new setters
  simp only [build_fst]
  cases setter with
  | name allocation name =>
      rw [apply_name]
      cases CString.new allocation.val name <;> rfl
  | _ => rfl

end ParamsBuilder

end Ep

namespace Context

inductive Field where
  | features
  | requestSize
  | requestInit
  | requestCleanup
  | tagSenderMask
  | mtWorkersShared
  | estimatedNumEps
  | estimatedNumPpn
  | name
  deriving DecidableEq

abbrev Field.Value : Field → Type
  | features => BitVec 64
  | requestSize => Nat
  | requestInit => Word
  | requestCleanup => Word
  | tagSenderMask => BitVec 64
  | mtWorkersShared => BitVec 32
  | estimatedNumEps => Nat
  | estimatedNumPpn => Nat
  | name => Option (List (BitVec 8))

namespace ParamsBuilder

inductive Setter where
  | features (features : Flags)
  | requestSize (size : Nat)
  | requestInit (cb : Word)
  | requestCleanup (cb : Word)
  | tagSenderMask (mask : BitVec 64)
  | mtWorkersShared (shared : BitVec 32)
  | estimatedNumEps (numEps : Nat)
  | estimatedNumPpn (numPpn : Nat)
  | name (allocation : NonNull) (name : List (BitVec 8))

/-- A setter call, successful or not. -/
def apply (builder : ParamsBuilder) : Setter → ParamsBuilder
  | .features features => builder.features features
  | .requestSize size => builder.requestSize size
  | .requestInit cb => builder.requestInit cb
  | .requestCleanup cb => builder.requestCleanup cb
  | .tagSenderMask mask => builder.tagSenderMask mask
  | .mtWorkersShared shared => builder.mtWorkersShared shared
  | .estimatedNumEps numEps => builder.estimatedNumEps numEps
  | .estimatedNumPpn numPpn => builder.estimatedNumPpn numPpn
  | .name allocation name => (builder.name allocation.val name).2

def layout : Layout Params Field Field.Value 64 where
  mask params := params.handle.fieldMask
  bit
    | .features => UcpParam.fieldFeatures
    | .requestSize => UcpParam.fieldRequestSize
    | .requestInit => UcpParam.fieldRequestInit
    | .requestCleanup => UcpParam.fieldRequestCleanup
    | .tagSenderMask => UcpParam.fieldTagSenderMask
    | .mtWorkersShared => UcpParam.fieldMtWorkersShared
    | .estimatedNumEps => UcpParam.fieldEstimatedNumEps
    | .estimatedNumPpn => UcpParam.fieldEstimatedNumPpn
    | .name => UcpParam.fieldName
  value params
    | .features => params.handle.features
    | .requestSize => params.handle.requestSize
    | .requestInit => params.handle.requestInit
    | .requestCleanup => params.handle.requestCleanup
    | .tagSenderMask => params.handle.tagSenderMask
    | .mtWorkersShared => params.handle.mtWorkersShared
    | .estimatedNumEps => params.handle.estimatedNumEps
    | .estimatedNumPpn => params.handle.estimatedNumPpn
    | .name => readName params.handle.name params.name

def sets : Setter → (field : Field) → Option (Field.Value field)
  | .features features, .features => some features.bits
  | .requestSize size, .requestSize => some size
  | .requestInit cb, .requestInit => some cb
  | .requestCleanup cb, .requestCleanup => some cb
  | .tagSenderMask mask, .tagSenderMask => some mask
  | .mtWorkersShared shared, .mtWorkersShared => some shared
  | .estimatedNumEps numEps, .estimatedNumEps => some numEps
  | .estimatedNumPpn numPpn, .estimatedNumPpn => some numPpn
  | .name allocation name, .name =>
      (CString.new allocation.val name).map fun nameCs => some nameCs.bytes
  | _, _ => none

def targets : Setter → List Field
  | .features _ => [.features]
  | .requestSize _ => [.requestSize]
  | .requestInit _ => [.requestInit]
  | .requestCleanup _ => [.requestCleanup]
  | .tagSenderMask _ => [.tagSenderMask]
  | .mtWorkersShared _ => [.mtWorkersShared]
  | .estimatedNumEps _ => [.estimatedNumEps]
  | .estimatedNumPpn _ => [.estimatedNumPpn]
  | .name allocation name => if (CString.new allocation.val name).isSome then [.name] else []

theorem separate : layout.Separate := by
  intro first second
  cases first <;> cases second <;> decide

theorem build_fst (builder : ParamsBuilder) :
    builder.build.1 =
      { handle := { builder.uninitHandle with
          fieldMask := builder.fieldMask
          name := (builder.heldName.map CString.address).getD builder.uninitHandle.name }
        name := builder.heldName
        mtWorkersShared := builder.sharedMtWorkers } := by
  unfold build
  cases builder.heldName <;> rfl

/-- The builder with a name, as its setter leaves it. -/
def withName (builder : ParamsBuilder) (nameCs : CString) : ParamsBuilder :=
  { builder with
    fieldMask := builder.fieldMask ||| UcpParam.fieldName
    heldName := some nameCs }

theorem apply_name (allocation : NonNull) (name : List (BitVec 8)) (builder : ParamsBuilder) :
    builder.apply (.name allocation name) =
      ((CString.new allocation.val name).map builder.withName).getD builder := by
  cases made : CString.new allocation.val name <;>
    simp [apply, ParamsBuilder.name, withName, made]

theorem advertises : Advertises layout (fun builder => builder.build.1) apply sets := by
  simp only [build_fst]
  refine Advertises.of_setters separate targets fun setter => ?_
  cases setter with
  | name allocation name =>
      refine SetsTargets.of_made (apply_name allocation name) (fun nul field => ?_)
        fun nameCs made => ⟨fun builder => rfl, fun field => ?_, fun builder field => ?_⟩
      · cases field <;> simp [sets, nul]
      · cases field <;> simp [sets, made]
      · cases field <;> simp [sets, made, withName, layout]
  | _ =>
      refine ⟨fun builder => rfl, fun field => ?_, fun builder field => ?_⟩
      · cases field <;> simp [sets, targets]
      · cases field <;> rfl

theorem showsLastSet :
    ShowsLastSet layout (fun builder => builder.build.1) apply sets new :=
  advertises.showsLastSet rfl

end ParamsBuilder

end Context

namespace Worker

inductive Field where
  | threadMode
  | cpuMask
  | events
  | userData
  | eventFd
  | flags
  | amAlignment
  | clientId
  | name
  deriving DecidableEq

abbrev Field.Value : Field → Type
  | threadMode => UcsThreadMode
  | cpuMask => UcsCpuSet
  | events => BitVec 32
  | userData => Word
  | eventFd => BitVec 32
  | flags => BitVec 64
  | amAlignment => Nat
  | clientId => BitVec 64
  | name => Option (List (BitVec 8))

namespace ParamsBuilder

inductive Setter where
  | threadMode (threadMode : ThreadMode)
  | cpuSet (cpuSet : CpuSet)
  | events (events : BitVec 32)
  | userData (data : Word)
  | eventFd (eventFd : BitVec 32)
  | flags (flags : UcpWorkerFlags)
  | amAlignment (amAlignment : Nat)
  | clientId (clientId : BitVec 64)
  | name (allocation : NonNull) (name : List (BitVec 8))

/-- A setter call, successful or not. -/
def apply (builder : ParamsBuilder) : Setter → ParamsBuilder
  | .threadMode threadMode => builder.threadMode threadMode
  | .cpuSet cpuSet => builder.cpuSet cpuSet
  | .events events => builder.events events
  | .userData data => builder.userData data
  | .eventFd eventFd => builder.eventFd eventFd
  | .flags flags => builder.flags flags
  | .amAlignment amAlignment => builder.amAlignment amAlignment
  | .clientId clientId => builder.clientId clientId
  | .name allocation name => (builder.name allocation.val name).2

def layout : Layout Params Field Field.Value 64 where
  mask params := params.handle.fieldMask
  bit
    | .threadMode => UcpWorkerParam.fieldThreadMode
    | .cpuMask => UcpWorkerParam.fieldCpuMask
    | .events => UcpWorkerParam.fieldEvents
    | .userData => UcpWorkerParam.fieldUserData
    | .eventFd => UcpWorkerParam.fieldEventFd
    | .flags => UcpWorkerParam.fieldFlags
    | .amAlignment => UcpWorkerParam.fieldAmAlignment
    | .clientId => UcpWorkerParam.fieldClientId
    | .name => UcpWorkerParam.fieldName
  value params
    | .threadMode => params.handle.threadMode
    | .cpuMask => params.handle.cpuMask
    | .events => params.handle.events
    | .userData => params.handle.userData
    | .eventFd => params.handle.eventFd
    | .flags => params.handle.flags
    | .amAlignment => params.handle.amAlignment
    | .clientId => params.handle.clientId
    | .name => readName params.handle.name params.name

def sets : Setter → (field : Field) → Option (Field.Value field)
  | .threadMode threadMode, .threadMode => some threadMode.toFfi
  | .cpuSet cpuSet, .cpuMask => some cpuSet.set
  | .events events, .events => some events
  | .userData data, .userData => some data
  | .eventFd eventFd, .eventFd => some eventFd
  | .flags flags, .flags => some flags.bits
  | .amAlignment amAlignment, .amAlignment => some amAlignment
  | .clientId clientId, .clientId => some clientId
  | .name allocation name, .name =>
      (CString.new allocation.val name).map fun nameCs => some nameCs.bytes
  | _, _ => none

def targets : Setter → List Field
  | .threadMode _ => [.threadMode]
  | .cpuSet _ => [.cpuMask]
  | .events _ => [.events]
  | .userData _ => [.userData]
  | .eventFd _ => [.eventFd]
  | .flags _ => [.flags]
  | .amAlignment _ => [.amAlignment]
  | .clientId _ => [.clientId]
  | .name allocation name => if (CString.new allocation.val name).isSome then [.name] else []

theorem separate : layout.Separate := by
  intro first second
  cases first <;> cases second <;> decide

theorem build_fst (builder : ParamsBuilder) :
    builder.build.1 =
      { handle := { builder.uninitHandle with
          fieldMask := builder.fieldMask
          name := (builder.heldName.map CString.address).getD builder.uninitHandle.name }
        name := builder.heldName } := by
  unfold build
  cases builder.heldName <;> rfl

/-- The builder with a name, as its setter leaves it. -/
def withName (builder : ParamsBuilder) (nameCs : CString) : ParamsBuilder :=
  { builder with
    fieldMask := builder.fieldMask ||| UcpWorkerParam.fieldName
    heldName := some nameCs }

theorem apply_name (allocation : NonNull) (name : List (BitVec 8)) (builder : ParamsBuilder) :
    builder.apply (.name allocation name) =
      ((CString.new allocation.val name).map builder.withName).getD builder := by
  cases made : CString.new allocation.val name <;>
    simp [apply, ParamsBuilder.name, withName, made]

theorem advertises : Advertises layout (fun builder => builder.build.1) apply sets := by
  simp only [build_fst]
  refine Advertises.of_setters separate targets fun setter => ?_
  cases setter with
  | name allocation name =>
      refine SetsTargets.of_made (apply_name allocation name) (fun nul field => ?_)
        fun nameCs made => ⟨fun builder => rfl, fun field => ?_, fun builder field => ?_⟩
      · cases field <;> simp [sets, nul]
      · cases field <;> simp [sets, made]
      · cases field <;> simp [sets, made, withName, layout]
  | _ =>
      refine ⟨fun builder => rfl, fun field => ?_, fun builder field => ?_⟩
      · cases field <;> simp [sets, targets]
      · cases field <;> rfl

theorem showsLastSet :
    ShowsLastSet layout (fun builder => builder.build.1) apply sets new :=
  advertises.showsLastSet rfl

end ParamsBuilder

end Worker

end UcxRs
