import UcxRs.AttributeQueries
import UcxRs.HandleReclamation
import UcxRs.MemoryHandles
import UcxRs.PostingOperations
import UcxRs.WorkerOperations

/-!
# Resources that UCX hands out

Registered memory, packed keys and memory handles, unpacked keys, worker addresses
and received stream data belong to UCX until they are given back by the call for
their kind.  The values of the wrapper that own such a resource give it back when
they are dropped; two functions give a packed key back by themselves.

The file shows of every method that it takes over at most one resource, and that the
resource is with the method's result when it ends.  A resource that is handed out is not
handed out again before it is released (`mayGrant`): were UCX to share one dummy handle
among regions of length zero, its releases would have to be counted, which is not done
here.
-/

namespace UcxRs

namespace UcxResources

open HandleOwnership
open Interaction (Program)

/-- A resource, with what its release needs to name. -/
inductive Resource where
  | mem (context : ContextHandle) (memh : MemPointer)
  | memhBuffer (buffer : Word)
  | rkeyBuffer (buffer : Word)
  | rkey (handle : RkeyHandle)
  | workerAddress (worker : WorkerHandle) (address : AddressPointer)
  | streamData (ep : EpHandle) (data : Word)
  deriving DecidableEq, Repr

/-- Null is no resource. -/
def Resource.isNonNull : Resource → Bool
  | mem _ memh => decide (memh.address ≠ 0)
  | memhBuffer buffer => decide (buffer ≠ 0)
  | rkeyBuffer buffer => decide (buffer ≠ 0)
  | rkey handle => decide (handle.address ≠ 0)
  | workerAddress _ address => decide (address.address ≠ 0)
  | streamData _ data => decide (data ≠ 0)

/-- The release calls of UCX. -/
def releasedResource : Call → Option Resource
  | .ucpMemUnmap context memh => some (.mem context memh)
  | .ucpMemhBufferRelease buffer => some (.memhBuffer buffer)
  | .ucpRkeyBufferRelease buffer => some (.rkeyBuffer buffer)
  | .ucpRkeyDestroy rkey => some (.rkey rkey)
  | .ucpWorkerReleaseAddress worker address => some (.workerAddress worker address)
  | .ucpStreamDataRelease ep data => some (.streamData ep data)
  | _ => none

/-- A call that fails hands out nothing. -/
def ifOk (status : UcsStatus) (resource : Resource) : Option Resource :=
  match statusToResult status with
  | .ok () => some resource
  | .error _ => none

/-- What an answered call hands out, by the documentation of UCX. -/
def handedOut : (call : Call) → Answer call → Option Resource
  | .ucpMemMap context _, (status, memh) => ifOk status (.mem context memh)
  | .ucpMemhPack _ _, (status, buffer, _) => ifOk status (.memhBuffer buffer)
  | .ucpRkeyPack _ _, (status, buffer, _) => ifOk status (.rkeyBuffer buffer)
  | .ucpEpRkeyUnpack _ _, (status, rkey) => ifOk status (.rkey rkey)
  | .ucpWorkerGetAddress worker, (status, address, _) =>
      ifOk status (.workerAddress worker address)
  | .ucpStreamRecvDataNb ep, (ptr, _) =>
      if ptr = 0 ∨ requestStatusPtrIsErr ptr then none else some (.streamData ep ptr)
  | .ucpWorkerQuery worker attr, (status, filled) =>
      if attr.fieldMask &&& WorkerAttrFields.address ≠ 0 then
        ifOk status (.workerAddress worker filled.address)
      else none
  | _, _ => none

/-- What the wrapper takes over; the address of a query is copied like a number. -/
def takenOver : (call : Call) → Answer call → Option Resource
  | .ucpWorkerQuery _ _, _ => none
  | call, answer => handedOut call answer

def resourceProtocol : Protocol Call Answer Resource where
  names := releasedResource
  releases := releasedResource
  grants := takenOver
  tracked := Resource.isNonNull
  names_of_releases := id
  grants_of_releases := by
    intro call handle released answer
    cases call <;> first | rfl | cases released

/-- The values that a run creates. -/
inductive Resident where
  | memHandle (memh : MemHandle)
  | memHandleGuard (guard : MemHandleGuard)
  | packedMemh (packed : PackedMemhBuffer)
  | packedRkey (packed : PackedRkeyBuffer)
  | remoteKey (rkey : RemoteKey)
  | workerAddress (address : WorkerAddress)
  | streamData (data : StreamData)
  | workerAttr (attr : WorkerAttr)
  deriving DecidableEq, Repr

/-- What the drop of a value gives back. -/
def Resident.resource : Resident → Option Resource
  | memHandle memh => some (.mem memh.context memh.handle)
  | memHandleGuard guard => some (.mem guard.memh.context guard.memh.handle)
  | packedMemh packed => if packed.buffer ≠ 0 then some (.memhBuffer packed.buffer) else none
  | packedRkey packed => if packed.buffer ≠ 0 then some (.rkeyBuffer packed.buffer) else none
  | remoteKey rkey => if rkey.handle.address ≠ 0 then some (.rkey rkey.handle) else none
  | workerAddress address => some (.workerAddress address.parent.handle address.handle)
  | streamData data => some (.streamData data.ep data.data.val)
  | workerAttr _ => none

/-- The drop of a value; a `WorkerAttr` has none of its own. -/
def Resident.drop : Resident → Ffi Unit
  | memHandle memh => memh.drop
  | memHandleGuard guard => guard.drop
  | packedMemh packed => packed.drop
  | packedRkey packed => packed.drop
  | remoteKey rkey => rkey.drop
  | workerAddress address => address.drop
  | streamData data => data.drop
  | workerAttr _ => pure ()

/-- The safe functions that call UCX for a resource. -/
inductive Posting where
  | map (context : Context) (params : MemMapParamsBuilder)
  | mapSlice (context : Context) (mem : Buffer) (flags : BitVec 64)
  | packMemh (memh : MemHandle) (params : MemhPackParamsBuilder)
  | packRkey (context : Context) (memh : MemHandle)
  | pack (context : Context) (memh : MemHandle)
  | unpack (ep : Ep) (rkeyBuffer : List (BitVec 8))
  | packAddress (worker : Worker)
  | mtPackAddress (mt : MtWorker)
  | query (worker : Worker) (mask : BitVec 64)
  | streamRecvData (ep : Ep)

/-- The value of a function that succeeded. -/
def created {Value : Type} (make : Value → Resident) : Except Status Value → Outcome Resident
  | .ok value => .keeps (make value)
  | .error _ => .ends

def createdData : Except Status (Option StreamData) → Outcome Resident
  | .ok (some data) => .keeps (.streamData data)
  | .ok none => .ends
  | .error _ => .ends

def Posting.program : Posting → Ffi (Outcome Resident)
  | map context params => created .memHandle <$> MemHandle.map context params
  | mapSlice context mem flags => created .memHandleGuard <$> MemHandle.mapSlice context mem flags
  | packMemh memh params => created .packedMemh <$> UcxRs.packMemh memh params
  | packRkey context memh => created .packedRkey <$> UcxRs.packRkey context memh
  | pack context memh => (fun _ => .ends) <$> RemoteKey.pack context memh
  | unpack ep rkeyBuffer => created .remoteKey <$> RemoteKey.unpack ep rkeyBuffer
  | packAddress worker => created .workerAddress <$> worker.packAddress
  | mtPackAddress mt => (fun _ => .ends) <$> mt.packAddress.erase
  | query worker mask => created .workerAttr <$> worker.query mask
  | streamRecvData ep => createdData <$> ep.streamRecvData

/-- What can be done with a value. -/
inductive Operation where
  | query
  | advise (params : MemAdviseParamsBuilder)
  | drop

/-- The guard of a mapping offers its handle by reference. -/
def operate : Operation → Resident → Option (Ffi (Outcome Resident))
  | .query, .memHandle memh => some ((fun _ => .keeps (.memHandle memh)) <$> memh.query)
  | .query, .memHandleGuard guard =>
      some ((fun _ => .keeps (.memHandleGuard guard)) <$> guard.memh.query)
  | .advise params, .memHandle memh =>
      some ((fun _ => .keeps (.memHandle memh)) <$> memh.advise params)
  | .advise params, .memHandleGuard guard =>
      some ((fun _ => .keeps (.memHandleGuard guard)) <$> guard.memh.advise params)
  | .drop, resident => some ((fun _ => .ends) <$> resident.drop)
  | _, _ => none

/-- The value that is left owns what is held, and no other resource. -/
def Settled (outcome : Outcome Resident) (held : Option Resource) : Prop :=
  (∀ resident owned, outcome.resident = some resident → resident.resource = some owned →
    held = some owned) ∧
  ∀ resource, resource.isNonNull = true → held = some resource →
    outcome.resident.bind Resident.resource = some resource

/-- No second resource comes to a method that holds one. -/
def OneAtATime (call : Call) (held : Option Resource) : Prop :=
  ∀ resource, resource.isNonNull = true → held = some resource →
    ∀ answer, takenOver call answer = none

theorem settled_ends : Settled .ends none := by
  constructor
  · rintro _ _ ⟨⟩
  · rintro _ _ ⟨⟩

theorem settled_keeps {resident : Resident} {held : Option Resource}
    (owns : ∀ owned, resident.resource = some owned → held = some owned)
    (holds : ∀ resource, resource.isNonNull = true → held = some resource →
      resident.resource = some resource) : Settled (.keeps resident) held := by
  constructor
  · rintro _ owned ⟨⟩ resource
    exact owns owned resource
  · exact holds

theorem settled_owner {resident : Resident} : Settled (.keeps resident) resident.resource :=
  settled_keeps (fun _ owned => owned) (fun _ _ held => held)

/-- A value whose drop checks its pointer for null. -/
theorem settled_unlessNull {resident : Resident} {resource : Resource} {nonNull : Prop}
    [Decidable nonNull] (owned : resident.resource = if nonNull then some resource else none)
    (null : ¬ nonNull → resource.isNonNull = false) :
    Settled (.keeps resident) (some resource) := by
  by_cases present : nonNull
  · rw [if_pos present] at owned
    rw [← owned]
    exact settled_owner
  · rw [if_neg present] at owned
    refine settled_keeps ?_ ?_
    · rw [owned]
      rintro _ ⟨⟩
    · rintro _ isNonNull ⟨⟩
      rw [null present] at isNonNull
      cases isNonNull

/-- A method that creates a value. -/
abbrev Creates {Result : Type} (ensures : Result → Option Resource → Prop)
    (program : Ffi Result) (held : Option Resource) : Prop :=
  resourceProtocol.Respects OneAtATime ensures program held

section Creations

variable {Result : Type} {ensures : Result → Option Resource → Prop}

/-- A call of a method that holds nothing. -/
theorem creates_call {call : Call} {resume : Answer call → Ffi Result}
    (keeps : releasedResource call = none)
    (rest : ∀ answer, Creates ensures (resume answer) (takenOver call answer)) :
    Creates ensures (.issue call resume) none := by
  refine ⟨by rintro _ _ ⟨⟩, ?_, fun answer => ?_⟩
  · intro resource named
    exact absurd (keeps.symm.trans named) (Option.some_ne_none resource).symm
  · rw [Protocol.heldAfter_none]
    exact rest answer

/-- The method gives its resource back by itself. -/
theorem creates_release {call : Call} {resource : Resource}
    {resume : Answer call → Ffi Result} (released : releasedResource call = some resource)
    (rest : ∀ answer, Creates ensures (resume answer) none) :
    Creates ensures (.issue call resume) (some resource) := by
  refine Protocol.Respects.release ?_ released rest
  intro _ _ _ answer
  exact resourceProtocol.grants_of_releases released answer

/-- A call that hands out a resource if it succeeds; its error is passed on. -/
theorem creates_ifOk {Value : Type} {ensures : Except Status Value → Option Resource → Prop}
    (call : Call) (status : Answer call → UcsStatus) (resource : Answer call → Resource)
    {next : Answer call → Ffi (Except Status Value)}
    (keeps : releasedResource call = none)
    (takes : ∀ answer, takenOver call answer = ifOk (status answer) (resource answer))
    (onError : ∀ error, ensures (.error error) none)
    (onOk : ∀ answer, Creates ensures (next answer) (some (resource answer))) :
    Creates ensures (.issue call fun answer =>
      match statusToResult (status answer) with
      | .ok () => next answer
      | .error error => .done (.error error)) none := by
  refine creates_call keeps fun answer => ?_
  rw [takes answer, ifOk]
  cases statusToResult (status answer) with
  | error error => exact onError error
  | ok success => exact onOk answer

theorem creates_memMap {make : MemHandle → Resident}
    (owner : ∀ memh, (make memh).resource = some (.mem memh.context memh.handle))
    (context : Context) (params : MemMapParamsBuilder) :
    Creates (fun result held => Settled (created make result) held)
      (MemHandle.map context params) none := by
  refine creates_ifOk (.ucpMemMap context.handle params.build.handle) (fun answer => answer.1)
    (fun answer => .mem context.handle answer.2) rfl (fun _ => rfl) (fun _ => settled_ends) ?_
  rintro ⟨status, memh⟩
  have owned := owner ⟨context.handle, memh⟩
  change Settled (.keeps (make ⟨context.handle, memh⟩)) (some (.mem context.handle memh))
  rw [← owned]
  exact settled_owner

theorem creates_mapSlice (context : Context) (mem : Buffer) (flags : BitVec 64) :
    Creates (fun result held => Settled (created .memHandleGuard result) held)
      (MemHandle.mapSlice context mem flags) none := by
  unfold MemHandle.mapSlice
  split_ifs
  · refine Protocol.Respects.bind
      ((@creates_memMap (fun memh => .memHandleGuard ⟨memh⟩) (fun _ => rfl) _ _).mono
        (fun _ _ admitted => admitted) ?_)
    rintro (error | memh) held settled
    · exact settled
    · exact settled
  · exact settled_ends

theorem creates_packMemh (memh : MemHandle) (params : MemhPackParamsBuilder) :
    Creates (fun result held => Settled (created .packedMemh result) held)
      (packMemh memh params) none := by
  refine creates_ifOk (.ucpMemhPack memh.handle params.build.handle) (fun answer => answer.1)
    (fun answer => .memhBuffer answer.2.1) rfl (fun _ => rfl) (fun _ => settled_ends) ?_
  rintro ⟨status, buffer, length⟩
  refine settled_unlessNull rfl fun null => ?_
  exact decide_eq_false null

theorem creates_packRkey (context : Context) (memh : MemHandle) :
    Creates (fun result held => Settled (created .packedRkey result) held)
      (packRkey context memh) none := by
  refine creates_ifOk (.ucpRkeyPack context.handle memh.handle) (fun answer => answer.1)
    (fun answer => .rkeyBuffer answer.2.1) rfl (fun _ => rfl) (fun _ => settled_ends) ?_
  rintro ⟨status, buffer, payload⟩
  by_cases short : payload.length < 2 ^ 32
  · have framed : PackedRkeyBuffer.fromRawParts buffer payload = .ok ⟨buffer, payload.length,
        memoryBytes (BitVec.ofNat 32 payload.length) ++ payload⟩ := if_pos short
    simp only [framed]
    exact settled_unlessNull rfl fun null => decide_eq_false null
  · have framed : PackedRkeyBuffer.fromRawParts buffer payload = .error .errOutOfRange :=
      if_neg short
    simp only [framed]
    exact creates_release rfl fun _ => settled_ends

theorem creates_pack (context : Context) (memh : MemHandle) :
    Creates (fun _ held => Settled .ends held) (RemoteKey.pack context memh) none := by
  refine creates_ifOk (.ucpRkeyPack context.handle memh.handle) (fun answer => answer.1)
    (fun answer => .rkeyBuffer answer.2.1) rfl (fun _ => rfl) (fun _ => settled_ends) ?_
  rintro ⟨status, buffer, payload⟩
  exact creates_release rfl fun _ => settled_ends

theorem creates_packAddress (worker : Worker) :
    Creates (fun result held => Settled (created .workerAddress result) held)
      worker.packAddress none := by
  refine creates_ifOk (.ucpWorkerGetAddress worker.handle) (fun answer => answer.1)
    (fun answer => .workerAddress worker.handle answer.2.1) rfl (fun _ => rfl)
    (fun _ => settled_ends) ?_
  rintro ⟨status, address, bytes⟩
  exact settled_owner

/-- `MtWorker::pack_address` copies the bytes and gives the address back. -/
theorem creates_mtPackAddress (mt : MtWorker) :
    Creates (fun _ held => Settled .ends held) mt.packAddress.erase none := by
  rw [MtWorker.packAddress, MtWorker.erase_holdingLock]
  refine Protocol.Respects.bind ((creates_packAddress mt.worker).mono
    (fun _ _ admitted => admitted) ?_)
  rintro (error | address) held settled
  · exact settled
  · have holds : held = some (.workerAddress address.parent.handle address.handle) :=
      settled.1 (.workerAddress address) _ rfl rfl
    rw [holds]
    exact creates_release rfl fun _ => settled_ends

theorem creates_unpack (ep : Ep) (rkeyBuffer : List (BitVec 8)) :
    Creates (fun result held => Settled (created .remoteKey result) held)
      (RemoteKey.unpack ep rkeyBuffer) none := by
  unfold RemoteKey.unpack
  cases unframeRkeyPayload rkeyBuffer with
  | error error => exact settled_ends
  | ok payload =>
      refine creates_call rfl ?_
      rintro ⟨status, rkey⟩
      change Settled (created .remoteKey ((statusToResult status).map fun _ => _))
        (ifOk status (.rkey rkey))
      rw [ifOk]
      cases statusToResult status with
      | error error => exact settled_ends
      | ok success => exact settled_unlessNull rfl fun null => decide_eq_false null

/-- A queried address is not taken over. -/
theorem creates_query (worker : Worker) (mask : BitVec 64) :
    Creates (fun result held => Settled (created .workerAttr result) held)
      (worker.query mask) none := by
  refine creates_call rfl ?_
  rintro ⟨status, attr⟩
  change Settled (created .workerAttr ((statusToResult status).map fun _ => _)) none
  cases statusToResult status with
  | error error => exact settled_ends
  | ok success => exact settled_owner

theorem creates_streamRecvData (ep : Ep) :
    Creates (fun result held => Settled (createdData result) held) ep.streamRecvData none := by
  refine creates_call rfl ?_
  rintro ⟨ptr, written⟩
  have takes : takenOver (.ucpStreamRecvDataNb ep.handle) (ptr, written) =
      if ptr = 0 ∨ requestStatusPtrIsErr ptr then none else some (.streamData ep.handle ptr) :=
    rfl
  rw [takes]
  dsimp only [Program.andThen]
  by_cases null : ptr = 0
  · rw [dif_pos null, if_pos (.inl null)]
    exact settled_ends
  · rw [dif_neg null]
    by_cases isErr : requestStatusPtrIsErr ptr = true
    · rw [if_pos isErr, if_pos (.inr isErr)]
      exact settled_ends
    · rw [if_neg isErr, if_neg (not_or.mpr ⟨null, isErr⟩)]
      exact settled_owner

end Creations

/-- A method of a value. -/
abbrev Operates {Result : Type} (ensures : Result → Option Resource → Prop)
    (program : Ffi Result) (held : Option Resource) : Prop :=
  resourceProtocol.Respects
    (fun call held => OneAtATime call held ∧ resourceProtocol.Operates call held)
    ensures program held

section Operations

variable {Result : Type} {ensures : Result → Option Resource → Prop} {resource : Resource}

theorem operates_query {call : Call} {resume : Answer call → Ffi Result}
    (keeps : releasedResource call = none) (grantless : ∀ answer, takenOver call answer = none)
    (rest : ∀ answer, Operates ensures (resume answer) (some resource)) :
    Operates ensures (.issue call resume) (some resource) := by
  refine Protocol.Respects.query ⟨fun _ _ _ => grantless, Option.some_ne_none _, grantless⟩ ?_
    keeps grantless rest
  intro other named
  exact absurd (keeps.symm.trans named) (Option.some_ne_none other).symm

theorem operates_release {call : Call} {resume : Answer call → Ffi Result}
    (released : releasedResource call = some resource)
    (rest : ∀ answer, Operates ensures (resume answer) none) :
    Operates ensures (.issue call resume) (some resource) := by
  have grantless := resourceProtocol.grants_of_releases released
  exact Protocol.Respects.release ⟨fun _ _ _ => grantless, Option.some_ne_none _, grantless⟩
    released rest

/-- The drop of a value whose pointer is checked for null. -/
theorem operates_unlessNull {nonNull : Prop} [Decidable nonNull] {call : Call}
    {resume : Answer call → Ffi Result} {done : Result}
    (released : releasedResource call = some resource)
    (rest : ∀ answer, Operates ensures (resume answer) none)
    (nothing : ensures done none) :
    Operates ensures (if nonNull then .issue call resume else .done done)
      (if nonNull then some resource else none) := by
  split_ifs
  · exact operates_release released rest
  · exact nothing

theorem operates_drop (resident : Resident) :
    Operates (fun _ held => Settled .ends held) resident.drop resident.resource := by
  cases resident with
  | memHandle memh => exact operates_release rfl fun _ => settled_ends
  | memHandleGuard guard => exact operates_release rfl fun _ => settled_ends
  | packedMemh packed => exact operates_unlessNull rfl (fun _ => settled_ends) settled_ends
  | packedRkey packed => exact operates_unlessNull rfl (fun _ => settled_ends) settled_ends
  | remoteKey rkey => exact operates_unlessNull rfl (fun _ => settled_ends) settled_ends
  | workerAddress address => exact operates_release rfl fun _ => settled_ends
  | streamData data => exact operates_release rfl fun _ => settled_ends
  | workerAttr attr => exact settled_ends

theorem operates_memQuery (memh : MemHandle)
    {ensures : Except Status MemAttr → Option Resource → Prop}
    (kept : ∀ result, ensures result (some resource)) :
    Operates ensures memh.query (some resource) := by
  refine operates_query rfl (fun _ => rfl) ?_
  rintro ⟨status, attr⟩
  dsimp only [Program.andThen]
  cases statusToResult status with
  | error error => exact kept (.error error)
  | ok success => exact kept (.ok _)

theorem operates_memAdvise (memh : MemHandle) (params : MemAdviseParamsBuilder)
    {ensures : Except Status Unit → Option Resource → Prop}
    (kept : ∀ result, ensures result (some resource)) :
    Operates ensures (memh.advise params) (some resource) :=
  operates_query rfl (fun _ => rfl) fun _ => kept _

theorem operates_operate {operation : Operation} {resident : Resident}
    {program : Ffi (Outcome Resident)} (operated : operate operation resident = some program) :
    Operates Settled program resident.resource := by
  cases operation with
  | drop =>
      cases operated
      exact Protocol.Respects.map (operates_drop resident)
  | query =>
      cases resident with
      | memHandle memh =>
          cases operated
          exact Protocol.Respects.map (operates_memQuery memh fun _ => settled_owner)
      | memHandleGuard guard =>
          cases operated
          exact Protocol.Respects.map (operates_memQuery guard.memh fun _ => settled_owner)
      | _ => cases operated
  | advise params =>
      cases resident with
      | memHandle memh =>
          cases operated
          exact Protocol.Respects.map (operates_memAdvise memh params fun _ => settled_owner)
      | memHandleGuard guard =>
          cases operated
          exact Protocol.Respects.map (operates_memAdvise guard.memh params fun _ => settled_owner)
      | _ => cases operated

end Operations

theorem creates_program (posting : Posting) : Creates Settled posting.program none := by
  cases posting with
  | map context params =>
      exact Protocol.Respects.map (creates_memMap (fun _ => rfl) context params)
  | mapSlice context mem flags =>
      exact Protocol.Respects.map (creates_mapSlice context mem flags)
  | packMemh memh params => exact Protocol.Respects.map (creates_packMemh memh params)
  | packRkey context memh => exact Protocol.Respects.map (creates_packRkey context memh)
  | pack context memh => exact Protocol.Respects.map (creates_pack context memh)
  | unpack ep rkeyBuffer => exact Protocol.Respects.map (creates_unpack ep rkeyBuffer)
  | packAddress worker => exact Protocol.Respects.map (creates_packAddress worker)
  | mtPackAddress mt => exact Protocol.Respects.map (creates_mtPackAddress mt)
  | query worker mask => exact Protocol.Respects.map (creates_query worker mask)
  | streamRecvData ep => exact Protocol.Respects.map (creates_streamRecvData ep)

/-- The values of the wrapper that own a resource of UCX. -/
def resources : Component Call Answer Resource Resident Posting Operation where
  toProtocol := resourceProtocol
  handle := Resident.resource
  post := Posting.program
  operate := operate
  post_respects posting :=
    (creates_program posting).mono (fun _ _ _ => trivial) fun _ _ settled => settled.1
  operate_respects operated :=
    (operates_operate operated).mono (fun _ _ operates => operates.2) fun _ _ settled => settled.1

theorem resources_settles : resources.Settles where
  post posting := (creates_program posting).mono (fun _ _ admitted => admitted)
    fun _ _ settled => settled.2
  operate operated := (operates_operate operated).mono (fun _ _ operates => operates.1)
    fun _ _ settled => settled.2

end UcxResources

end UcxRs
