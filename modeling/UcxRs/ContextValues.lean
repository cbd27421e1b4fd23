import UcxRs.AttributeQueries
import UcxRs.ContextCreation
import UcxRs.ScopedValues
import UcxRs.WorkerLifetimes

/-!
# Workers and memory in a context

A `Worker` and a `MemHandle` are created from a `Context` and keep handles of UCX.  Their
code acts on the handles of the value only, and nothing but its drop ends it, with the
last call.
-/

namespace UcxRs

namespace ContextValues

/-- The calls of UCX, with those that create a worker and end a context. -/
inductive ContextCall where
  | ucp (call : Call)
  | ucpWorkerCreate (context : ContextHandle) (params : UcpWorkerParams)
  | ucpCleanup (context : ContextHandle)

def ContextAnswer : ContextCall → Type
  | .ucp call => Answer call
  | .ucpWorkerCreate _ _ => UcsStatus × WorkerHandle
  | .ucpCleanup _ => Unit

abbrev ContextCode (Result : Type) := Interaction.Program ContextCall ContextAnswer Result

abbrev Oracle : Type := Interaction.Environment ContextCall ContextAnswer

def ofFfi {Result : Type} (program : Ffi Result) : ContextCode Result :=
  program.embed ContextCall.ucp fun _ answer => answer

end ContextValues

open ContextValues (ContextCode)

/-- `Worker::new`; the liveness flag is a new allocation. -/
def Worker.new (context : Context) (params : Worker.Params) (alive : AliveFlag) :
    ContextCode (Except Status Worker) :=
  .issue (.ucpWorkerCreate context.handle params.handle) fun (status, worker) =>
    match statusToResult status with
    | .ok () => .done (.ok ⟨worker, alive⟩)
    | .error error => .done (.error error)

def Context.workerCreate (context : Context) (params : Worker.Params) (alive : AliveFlag) :
    ContextCode (Except Status Worker) :=
  Worker.new context params alive

/-- `Drop for Context`. -/
def Context.drop (context : Context) : ContextCode Unit :=
  .issue (.ucpCleanup context.handle) fun _ => .done ()

namespace ContextValues

open Interaction (Environment Program)
open Interaction.Program
open ScopedHandles
open WorkerSerialisation (workerArgument)

/-- What UCX has in a context. -/
inductive Object where
  | worker (handle : WorkerHandle)
  | memory (handle : MemPointer)
  deriving DecidableEq, Repr

/-- A worker does not keep its context; the world notes it beside the worker. -/
inductive Value where
  | worker (worker : Worker) (context : ContextHandle)
  | memory (memh : MemHandle)
  deriving DecidableEq, Repr

namespace Value

def object : Value → Object
  | worker owned _ => .worker owned.handle
  | memory memh => .memory memh.handle

def context : Value → ContextHandle
  | worker _ context => context
  | memory memh => memh.context

def drop : Value → ContextCode Unit
  | worker owned _ => ofFfi owned.drop
  | memory memh => ofFfi memh.drop

end Value

/-- `Context::worker_create`, `MemHandle::map` and `MemHandle::map_slice`, whose guard is
the handle. -/
inductive Creation where
  | worker (params : Worker.Params) (alive : AliveFlag)
  | map (params : MemMapParamsBuilder)
  | mapSlice (mem : Buffer) (flags : BitVec 64)

def Creation.program (context : Context) : Creation → ContextCode (Except Status Value)
  | worker params alive =>
      (·.map fun worker => .worker worker context.handle) <$>
        context.workerCreate params alive
  | map params => (·.map Value.memory) <$> ofFfi (MemHandle.map context params)
  | mapSlice mem flags =>
      (·.map fun guard => .memory guard.memh) <$> ofFfi (MemHandle.mapSlice context mem flags)

/-- The methods of `Worker` that name no request, and those of `MemHandle`. -/
inductive Method where
  | progress
  | flush (params : RequestParam)
  | fence
  | arm
  | wait
  | signal
  | getEfd
  | workerQuery (mask : BitVec 64)
  | createEp (epParams : Ep.Params)
  | packAddress
  | memoryQuery
  | advise (params : MemAdviseParamsBuilder)
  | packMemh (params : MemhPackParamsBuilder)

/-- The code of a method; its result goes back to the caller. -/
def discard {Result : Type} (program : Ffi Result) : Option (ContextCode Unit) :=
  some (ofFfi (program >>= fun _ => pure ()))

/-- A packed address borrows its worker and is dropped before it. -/
def packThenDrop (worker : Worker) : Ffi Unit := do
  match ← worker.packAddress with
  | .ok address => address.drop
  | .error _ => pure ()

def Method.program : Method → Value → Option (ContextCode Unit)
  | progress, .worker worker _ => discard worker.progress
  | flush params, .worker worker _ => discard (worker.flush params)
  | fence, .worker worker _ => discard worker.fence
  | arm, .worker worker _ => discard worker.arm
  | wait, .worker worker _ => discard worker.wait
  | signal, .worker worker _ => discard worker.signal
  | getEfd, .worker worker _ => discard worker.getEfd
  | workerQuery mask, .worker worker _ => discard (worker.query mask)
  | createEp epParams, .worker worker _ => discard (worker.createEp epParams)
  | packAddress, .worker worker _ => discard (packThenDrop worker)
  | memoryQuery, .memory memh => discard memh.query
  | advise params, .memory memh => discard (memh.advise params)
  | packMemh params, .memory memh => discard (UcxRs.packMemh memh params)
  | _, _ => none

/-- `pack_rkey` and `RemoteKey::pack`. -/
inductive Packing where
  | packRkey
  | remoteKeyPack

def Packing.program (context : Context) : Packing → Value → Option (ContextCode Unit)
  | packRkey, .memory memh => discard (UcxRs.packRkey context memh)
  | remoteKeyPack, .memory memh => discard (RemoteKey.pack context memh)
  | _, .worker _ _ => none

def arguments : ContextCall → List (Argument ContextHandle Object)
  | .ucpWorkerCreate context _ => [.scope context]
  | .ucpCleanup context => [.scope context]
  | .ucp (.ucpMemMap context _) => [.scope context]
  | .ucp (.ucpMemUnmap context memh) => [.scope context, .object (.memory memh)]
  | .ucp (.ucpMemQuery memh _) => [.object (.memory memh)]
  | .ucp (.ucpMemAdvise context memh _) => [.scope context, .object (.memory memh)]
  | .ucp (.ucpMemhPack memh _) => [.object (.memory memh)]
  | .ucp (.ucpRkeyPack context memh) => [.scope context, .object (.memory memh)]
  | .ucp call => ((workerArgument call).map fun worker => .object (.worker worker)).toList

def ended : ContextCall → Option (Argument ContextHandle Object)
  | .ucpCleanup context => some (.scope context)
  | .ucp (.ucpWorkerDestroy worker) => some (.object (.worker worker))
  | .ucp (.ucpMemUnmap _ memh) => some (.object (.memory memh))
  | _ => none

def contextInterface : Interface ContextCall ContextHandle Object where
  arguments := arguments
  ended := ended

def contextHolding : Holding Context Value ContextHandle Object where
  scope := Context.handle
  object := Value.object
  owner := Value.context

abbrev Quiet (given : List (Argument ContextHandle Object)) (call : ContextCall) : Prop :=
  contextInterface.Quiet given call

theorem actsOn_discard {Result : Type} {given : List (Argument ContextHandle Object)}
    {program : Ffi Result} {found : ContextCode Unit} (isFound : discard program = some found)
    (starts : ∃ call resume, program = .issue call resume ∧ arguments (.ucp call) = given)
    (quiet : program.EveryCall fun call => Quiet given (.ucp call)) :
    ActsOn contextInterface given found := by
  cases isFound
  obtain ⟨call, resume, rfl, named⟩ := starts
  refine ⟨⟨_, _, rfl, named⟩, ?_⟩
  refine EveryCall.embed (EveryCall.bind quiet fun _ => ?_) fun _ => id
  exact everyCall_done _ _

theorem packThenDrop_quiet (worker : Worker) :
    (packThenDrop worker).EveryCall fun call =>
      Quiet [.object (.worker worker.handle)] (.ucp call) := by
  refine ⟨⟨rfl, .inr rfl⟩, ?_⟩
  rintro ⟨status, address, bytes⟩
  dsimp only [andThen]
  cases statusToResult status with
  | error error => trivial
  | ok success => exact ⟨⟨rfl, .inr rfl⟩, fun _ => trivial⟩

theorem query_quiet (worker : Worker) (mask : BitVec 64) :
    (worker.query mask).EveryCall fun call =>
      Quiet [.object (.worker worker.handle)] (.ucp call) := by
  refine ⟨⟨rfl, .inr rfl⟩, ?_⟩
  rintro ⟨status, attr⟩
  exact everyCall_done _ _

theorem Method.actsOn {method : Method} {value : Value} {program : ContextCode Unit}
    (found : method.program value = some program) :
    ∃ given, NamesValue contextHolding value given ∧ ActsOn contextInterface given program := by
  cases value with
  | worker worker context =>
      refine ⟨_, .inl rfl, ?_⟩
      cases method with
      | memoryQuery => cases found
      | advise params => cases found
      | packMemh params => cases found
      | packAddress => exact actsOn_discard found ⟨_, _, rfl, rfl⟩ (packThenDrop_quiet worker)
      | workerQuery mask => exact actsOn_discard found ⟨_, _, rfl, rfl⟩ (query_quiet worker mask)
      | _ =>
          refine actsOn_discard found ⟨_, _, rfl, rfl⟩ ⟨⟨rfl, .inr rfl⟩, fun _ => ?_⟩
          exact everyCall_done _ _
  | memory memh =>
      cases method with
      | memoryQuery =>
          refine ⟨_, .inl rfl, actsOn_discard found ⟨_, _, rfl, rfl⟩ ⟨⟨rfl, .inr rfl⟩, ?_⟩⟩
          rintro ⟨status, attr⟩
          dsimp only [andThen]
          cases statusToResult status <;> exact everyCall_done _ _
      | advise params =>
          refine ⟨_, .inr rfl, actsOn_discard found ⟨_, _, rfl, rfl⟩ ⟨⟨rfl, .inr rfl⟩, ?_⟩⟩
          exact fun _ => everyCall_done _ _
      | packMemh params =>
          refine ⟨_, .inl rfl, actsOn_discard found ⟨_, _, rfl, rfl⟩ ⟨⟨rfl, .inr rfl⟩, ?_⟩⟩
          rintro ⟨status, buffer, length⟩
          dsimp only [andThen]
          cases statusToResult status <;> exact everyCall_done _ _
      | _ => cases found

theorem packRkey_quiet (context : Context) (memh : MemHandle) :
    (packRkey context memh).EveryCall fun call =>
      Quiet [.scope context.handle, .object (.memory memh.handle)] (.ucp call) := by
  refine ⟨⟨rfl, .inr rfl⟩, ?_⟩
  rintro ⟨status, buffer, payload⟩
  dsimp only [andThen]
  cases statusToResult status with
  | error error => trivial
  | ok success =>
      cases PackedRkeyBuffer.fromRawParts buffer payload with
      | ok packed => trivial
      | error error => exact ⟨⟨rfl, .inl rfl⟩, fun _ => trivial⟩

theorem remoteKeyPack_quiet (context : Context) (memh : MemHandle) :
    (RemoteKey.pack context memh).EveryCall fun call =>
      Quiet [.scope context.handle, .object (.memory memh.handle)] (.ucp call) := by
  refine ⟨⟨rfl, .inr rfl⟩, ?_⟩
  rintro ⟨status, buffer, payload⟩
  dsimp only [andThen]
  cases statusToResult status with
  | error error => trivial
  | ok success => exact ⟨⟨rfl, .inl rfl⟩, fun _ => trivial⟩

theorem Packing.actsOn {packing : Packing} {context : Context} {value : Value}
    {program : ContextCode Unit} (found : packing.program context value = some program) :
    ActsOn contextInterface [.scope context.handle, .object value.object] program := by
  cases value with
  | worker worker _ => cases packing <;> cases found
  | memory memh =>
      cases packing with
      | packRkey => exact actsOn_discard found ⟨_, _, rfl, rfl⟩ (packRkey_quiet context memh)
      | remoteKeyPack =>
          exact actsOn_discard found ⟨_, _, rfl, rfl⟩ (remoteKeyPack_quiet context memh)

/-- A creation fails on its arguments, or makes one call, on the context. -/
inductive Creates (context : Context) : ContextCode (Except Status Value) → Prop where
  | refused (error : Status) : Creates context (.done (.error error))
  | asks (call : ContextCall) (result : ContextAnswer call → Except Status Value)
      (named : arguments call = [.scope context.handle])
      (endsNothing : ended call = none)
      (keeps : ∀ answer value, result answer = .ok value → value.context = context.handle) :
      Creates context (.issue call fun answer => .done (result answer))

def createdWorker (context : Context) (alive : AliveFlag)
    (answer : UcsStatus × WorkerHandle) : Except Status Value :=
  (statusToResult answer.1).map fun _ => .worker ⟨answer.2, alive⟩ context.handle

def createdMemory (context : Context) (answer : UcsStatus × MemPointer) :
    Except Status Value :=
  (statusToResult answer.1).map fun _ => .memory ⟨context.handle, answer.2⟩

theorem keeps_map {status : Except Status Unit} {value made : Value}
    {context : Context} (isMade : status.map (fun _ => value) = .ok made)
    (keeps : value.context = context.handle) : made.context = context.handle := by
  cases status with
  | error error => cases isMade
  | ok success =>
      cases isMade
      exact keeps

theorem workerCreate_program (context : Context) (params : Worker.Params) (alive : AliveFlag) :
    (Creation.worker params alive).program context =
      .issue (.ucpWorkerCreate context.handle params.handle) fun answer =>
        .done (createdWorker context alive answer) := by
  refine congrArg (Program.issue _) (funext ?_)
  rintro ⟨status, handle⟩
  unfold createdWorker
  dsimp only
  cases statusToResult status <;> rfl

theorem map_program (context : Context) (params : MemMapParamsBuilder) :
    (Creation.map params).program context =
      .issue (.ucp (.ucpMemMap context.handle params.build.handle)) fun answer =>
        .done (createdMemory context answer) := by
  refine congrArg (Program.issue _) (funext ?_)
  rintro ⟨status, handle⟩
  unfold createdMemory
  dsimp only [andThen]
  cases statusToResult status <;> rfl

theorem mapSlice_program (context : Context) (mem : Buffer) {flags : BitVec 64}
    (fits : flags.toNat < 2 ^ 32) :
    (Creation.mapSlice mem flags).program context =
      .issue (.ucp (.ucpMemMap context.handle
        ((MemMapParamsBuilder.new.addressSlice mem).flags (flags.setWidth 32)).build.handle))
        fun answer => .done (createdMemory context answer) := by
  have slice : MemHandle.mapSlice context mem flags =
      MemHandle.map context ((MemMapParamsBuilder.new.addressSlice mem).flags
        (flags.setWidth 32)) >>= fun mapped => pure (mapped.map fun memh => ⟨memh⟩) :=
    if_pos fits
  change (·.map fun guard : MemHandleGuard => Value.memory guard.memh) <$>
    ofFfi (MemHandle.mapSlice context mem flags) = _
  rw [slice]
  refine congrArg (Program.issue _) (funext ?_)
  rintro ⟨status, handle⟩
  unfold createdMemory
  dsimp only [andThen]
  cases statusToResult status <;> rfl

theorem Creation.creates (creation : Creation) (context : Context) :
    Creates context (creation.program context) := by
  cases creation with
  | worker params alive =>
      rw [workerCreate_program]
      exact .asks _ _ rfl rfl fun _ _ isMade => keeps_map isMade rfl
  | map params =>
      rw [map_program]
      exact .asks _ _ rfl rfl fun _ _ isMade => keeps_map isMade rfl
  | mapSlice mem flags =>
      by_cases fits : flags.toNat < 2 ^ 32
      · rw [mapSlice_program context mem fits]
        exact .asks _ _ rfl rfl fun _ _ isMade => keeps_map isMade rfl
      · have refused : MemHandle.mapSlice context mem flags = pure (.error .errInvalidParam) :=
          if_neg fits
        change Creates context ((·.map fun guard : MemHandleGuard => Value.memory guard.memh) <$>
          ofFfi (MemHandle.mapSlice context mem flags))
        rw [refused]
        exact .refused _

theorem Creates.quiet {context : Context} {program : ContextCode (Except Status Value)}
    (creates : Creates context program) :
    program.EveryCall (Quiet [.scope context.handle]) := by
  cases creates with
  | refused error => exact everyCall_done _ _
  | asks call result named endsNothing keeps =>
      exact ⟨⟨endsNothing, .inr named⟩, fun _ => everyCall_done _ _⟩

/-- A creation that succeeds has called UCX with the context, and so has one that is seen
to use it. -/
theorem Creates.execution {context : Context} {program : ContextCode (Except Status Value)}
    (creates : Creates context program) (oracle : Oracle) :
    (program.execute oracle []).calls = [] ∧
        (∃ error, (program.execute oracle []).result = some (.error error)) ∨
      ∃ call, (program.execute oracle []).calls = [call] ∧
        arguments call = [.scope context.handle] ∧ ended call = none ∧
        ∀ value, (program.execute oracle []).result = some (.ok value) →
          value.context = context.handle := by
  cases creates with
  | refused error => exact .inl ⟨rfl, error, rfl⟩
  | asks call result named endsNothing keeps =>
      rw [execute_issue_done]
      refine .inr ⟨call, rfl, named, endsNothing, fun value isValue => ?_⟩
      obtain ⟨answer, -, resultEq⟩ := Option.map_eq_some_iff.mp isValue
      exact keeps answer value resultEq

/-- The drop of a worker names the worker, and ends nothing but it. -/
theorem dropWorker_named (worker : Worker) :
    worker.drop.EveryCall fun call =>
      WorkerLifetimes.Destroys worker call ∨
        Quiet [.object (.worker worker.handle)] (.ucp call) := by
  rw [WorkerLifetimes.drop_eq_afterFlush]
  refine ⟨.inr ⟨rfl, .inl rfl⟩, fun _ => ⟨.inr ⟨rfl, .inr rfl⟩, fun (flushed : Word) => ?_⟩⟩
  exact WorkerLifetimes.everyCall_afterFlush (fun _ => .inr ⟨rfl, .inl rfl⟩)
    (.inr ⟨rfl, .inr rfl⟩) (fun _ => .inr ⟨rfl, .inl rfl⟩) (.inl rfl) _

/-- The calls name the handles of the value or none, and end nothing but its object, with
the last call. -/
def Value.EndsItself (value : Value) (calls : List ContextCall) : Prop :=
  ∃ given front last, NamesValue contextHolding value given ∧ calls = front ++ [last] ∧
    (∀ call ∈ front, Quiet given call) ∧ arguments last = given ∧
    ended last = some (.object value.object)

theorem Value.drop_calls {value : Value} {oracle : Oracle} {history : List ContextCall}
    (finished : (value.drop.execute oracle history).result = some ()) :
    value.EndsItself (value.drop.execute oracle history).calls := by
  cases value with
  | worker worker context =>
      have closes : (ofFfi worker.drop).ClosesWith
          (· = .ucp (.ucpWorkerDestroy worker.handle)) := by
        refine (WorkerLifetimes.closesWith_drop worker).embed fun call => ?_
        exact ⟨fun same => ContextCall.ucp.inj same, congrArg ContextCall.ucp⟩
      obtain ⟨front, last, callsEq, rfl, before⟩ := closes.calls_eq finished
      refine ⟨_, front, _, .inl rfl, callsEq, fun call member => ?_, rfl, rfl⟩
      have named : (ofFfi worker.drop).EveryCall fun call =>
          call = .ucp (.ucpWorkerDestroy worker.handle) ∨
            Quiet [.object (.worker worker.handle)] call := by
        refine EveryCall.embed (dropWorker_named worker) fun call allowed => ?_
        exact allowed.imp_left (congrArg ContextCall.ucp)
      have isCall : call ∈ ((ofFfi worker.drop).execute oracle history).calls := by
        rw [callsEq]
        exact List.mem_append_left _ member
      exact (named.of_mem_calls isCall).resolve_left (before call member)
  | memory memh =>
      refine ⟨_, [], .ucp (.ucpMemUnmap memh.context memh.handle), .inr rfl, ?_, ?_, rfl, rfl⟩
      · have unmaps : (memory memh).drop =
            .issue (.ucp (.ucpMemUnmap memh.context memh.handle)) fun _ => .done () := rfl
        rw [unmaps, execute_issue_done]
        rfl
      · exact fun _ absent => by cases absent

end ContextValues

end UcxRs
