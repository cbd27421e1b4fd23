import UcxRs.ActiveMessages
import UcxRs.Endpoint
import UcxRs.InterruptedPrograms
import UcxRs.ParameterBuilders

/-!
# Registering active-message handlers

A safe handler is an `AmHandler` behind an `Arc`.  UCX gets its address together
with `am_trampoline`, and dereferences the address whenever it runs the callback.
Whoever owns the `Arc` decides how long that is allowed: first a local variable of
`am_register_handler`, then the vector `am_handlers` of the worker.

The code of a worker is a program over the calls of UCX and over what it does with
the memory of handlers.  UCX may deliver messages between any two of its steps.
-/

namespace UcxRs

namespace HandlerRegistration

open Interaction (Program)
open InterruptedPrograms

/-- An `Arc<AmHandler>`: its allocation, and the address `Arc::as_ptr` returns. -/
structure HandlerArc where
  allocation : Nat
  address : Word
  deriving DecidableEq, Repr

/-- What the code of a worker does. -/
inductive Effect (Captured : Type) where
  | ffi (call : Call)
  | newHandler (callback : AmCallback Captured) (captured : Captured)
  | pushHandler (handler : HandlerArc)
  | dropHandler (handler : HandlerArc)
  | dropFields

abbrev Effect.Reply {Captured : Type} : Effect Captured → Type
  | .ffi call => Answer call
  | .newHandler _ _ => HandlerArc
  | .pushHandler _ => Unit
  | .dropHandler _ => Unit
  | .dropFields => Unit

variable {Captured : Type}

abbrev Code (Captured Result : Type) :=
  Program (Effect Captured) Effect.Reply Result

/-- Code that only calls UCX. -/
def calling {Result : Type} (program : Ffi Result) : Code Captured Result :=
  program.embed Effect.ffi fun _ answer => answer

/-- `Worker::am_register_handler`, given the address of `am_trampoline`. -/
def amRegisterHandler (trampoline : NonNull) (worker : Worker) (id : BitVec 32)
    (flags : CbFlags) (callback : AmCallback Captured) (captured : Captured) :
    Code Captured (Except Status Unit) := do
  let handler ← Program.call (Effect.newHandler callback captured)
  let params := ((((HandlerParamsBuilder.new.id id).flags flags).cb trampoline.val).arg
    handler.address).build
  let status ← Program.call
    (Effect.ffi (.ucpWorkerSetAmRecvHandler worker.handle params.handle))
  match statusToResult status with
  | .error error => do
      Program.call (Effect.dropHandler handler)
      pure (.error error)
  | .ok () => do
      Program.call (Effect.pushHandler handler)
      pure (.ok ())

/-- `Worker::am_register`. -/
def amRegister (worker : Worker) (amParam : HandlerParams) : Ffi (Except Status Unit) := do
  let status ← perform (.ucpWorkerSetAmRecvHandler worker.handle amParam.handle)
  pure (statusToResult status)

/-- `Worker::am_unregister` sets a null callback. -/
def amUnregister (worker : Worker) (id : BitVec 32) : Ffi (Except Status Unit) := do
  let param : UcpAmHandlerParam := { UcpAmHandlerParam.zeroed with
    fieldMask := UcpAmHandlerParamField.fieldId ||| UcpAmHandlerParamField.fieldCb
    id := id
    cb := 0 }
  let status ← perform (.ucpWorkerSetAmRecvHandler worker.handle param)
  pure (statusToResult status)

/-- The drop of a worker: `Drop for Worker`, and then its fields. -/
def dropWorker (worker : Worker) : Code Captured Unit := do
  calling worker.drop
  Program.call Effect.dropFields

/-- An `AmHandler` in memory, with the code of its closure. -/
structure LiveHandler (Captured : Type) where
  allocation : Nat
  callback : AmCallback Captured
  handler : AmHandler Captured

/-- A callback and its argument, as UCX keeps them for a message id. -/
structure TableEntry where
  cb : Word
  arg : Word
  deriving DecidableEq, Repr

/-- A message that UCX delivers to a callback. -/
structure Message where
  entry : TableEntry
  header : RawBytes
  data : RawBytes
  deriving DecidableEq, Repr

/-- A run of `am_trampoline`, with the handler it found behind its argument. -/
structure TrampolineRun where
  arg : Word
  found : Option Nat
  deriving DecidableEq, Repr

/-- The memory of handlers with the Rust values that own them, and UCX's handler
table with everything it has held. -/
structure World (Captured : Type) where
  heap : Word → Option (LiveHandler Captured)
  nextAllocation : Nat
  locals : List HandlerArc
  amHandlers : List HandlerArc
  dropped : Bool
  table : BitVec 32 → Option TableEntry
  stored : List TableEntry
  destroyed : Bool
  installed : List HandlerArc
  failed : List HandlerArc
  trampolineRuns : List TrampolineRun

/-- `Worker::new`. -/
def World.initial : World Captured where
  heap _ := none
  nextAllocation := 0
  locals := []
  amHandlers := []
  dropped := false
  table _ := none
  stored := []
  destroyed := false
  installed := []
  failed := []
  trampolineRuns := []

/-- UCX reads a field of the parameters only if the mask selects it. -/
def selected (param : UcpAmHandlerParam) (field : BitVec 64) {width : Nat}
    (value : BitVec width) : BitVec width :=
  if param.fieldMask &&& field ≠ 0 then value else 0

def entryOf (param : UcpAmHandlerParam) : TableEntry where
  cb := selected param UcpAmHandlerParamField.fieldCb param.cb
  arg := selected param UcpAmHandlerParamField.fieldArg param.arg

def idOf (param : UcpAmHandlerParam) : BitVec 32 :=
  selected param UcpAmHandlerParamField.fieldId param.id

namespace World

variable (trampoline : NonNull)

/-- The `Arc` whose handler an entry names, if it is one for `am_trampoline`. -/
def handlersOf (world : World Captured) (entry : TableEntry) : List HandlerArc :=
  if entry.cb = trampoline.val then
    ((world.heap entry.arg).map fun live => ⟨live.allocation, entry.arg⟩).toList
  else []

/-- UCX stores the entry only if the call succeeds; a null callback clears the id. -/
def setAmRecvHandler (world : World Captured) (param : UcpAmHandlerParam)
    (status : UcsStatus) : World Captured :=
  let entry := entryOf param
  match statusToResult status with
  | .ok () =>
      if entry.cb = 0 then
        { world with table := Function.update world.table (idOf param) none }
      else { world with
        table := Function.update world.table (idOf param) (some entry)
        stored := entry :: world.stored
        installed := world.handlersOf trampoline entry ++ world.installed }
  | .error _ => { world with failed := world.handlersOf trampoline entry ++ world.failed }

/-- `Arc::new` returns an address that is not in use. -/
def newHandler (world : World Captured) (callback : AmCallback Captured)
    (captured : Captured) (arc : HandlerArc) : Option (World Captured) :=
  if arc.allocation = world.nextAllocation ∧ arc.address ≠ 0 ∧
      (world.heap arc.address).isNone then
    some { world with
      heap := Function.update world.heap arc.address
        (some ⟨arc.allocation, callback, .new captured⟩)
      nextAllocation := world.nextAllocation + 1
      locals := arc :: world.locals }
  else none

/-- What an answered call, or an operation on memory, does. -/
def perform (world : World Captured) :
    (effect : Effect Captured) → effect.Reply → Option (World Captured)
  | .ffi (.ucpWorkerSetAmRecvHandler _ param), status =>
      some (world.setAmRecvHandler trampoline param status)
  | .ffi (.ucpWorkerDestroy _), _ => some { world with destroyed := true }
  | .ffi _, _ => some world
  | .newHandler callback captured, arc => world.newHandler callback captured arc
  | .pushHandler arc, _ => some { world with
      amHandlers := world.amHandlers ++ [arc]
      locals := world.locals.erase arc }
  | .dropHandler arc, _ => some { world with
      heap := Function.update world.heap arc.address none
      locals := world.locals.erase arc }
  | .dropFields, _ => some { world with
      heap := fun address =>
        if address ∈ world.amHandlers.map HandlerArc.address then none else world.heap address
      amHandlers := [] }

/-- `am_trampoline` dereferences its argument; other callbacks are the user's. -/
def runCallback (world : World Captured) (message : Message) : World Captured :=
  if message.entry.cb = trampoline.val then
    match world.heap message.entry.arg with
    | none => { world with
        trampolineRuns := ⟨message.entry.arg, none⟩ :: world.trampolineRuns }
    | some live =>
        let delivery := amTrampoline live.callback live.handler message.header message.data
        { world with
          heap := Function.update world.heap message.entry.arg
            (some { live with handler := delivery.handler })
          trampolineRuns :=
            ⟨message.entry.arg, some live.allocation⟩ :: world.trampolineRuns }
  else world

/-- Until it is destroyed, UCX may run any callback that it ever stored. -/
def deliver (world : World Captured) (message : Message) : Option (World Captured) :=
  if world.destroyed then none
  else if message.entry ∈ world.stored then some (world.runCallback trampoline message)
  else none

end World

inductive Op (Captured : Type) where
  | amRegisterHandler (id : BitVec 32) (flags : CbFlags) (callback : AmCallback Captured)
      (captured : Captured)
  | amRegister (amParam : HandlerParams)
  | amUnregister (id : BitVec 32)
  | progress
  | drop

namespace Op

abbrev Result : Op Captured → Type
  | amRegisterHandler _ _ _ _ => Except Status Unit
  | amRegister _ => Except Status Unit
  | amUnregister _ => Except Status Unit
  | progress => Bool
  | drop => Unit

def code (trampoline : NonNull) (worker : Worker) :
    (op : Op Captured) → Code Captured op.Result
  | amRegisterHandler id flags callback captured =>
      HandlerRegistration.amRegisterHandler trampoline worker id flags callback captured
  | amRegister amParam => calling (HandlerRegistration.amRegister worker amParam)
  | amUnregister id => calling (HandlerRegistration.amUnregister worker id)
  | progress => calling worker.progress
  | drop => dropWorker worker

/-- The worker is not used once its drop has begun.  A raw callback cannot be
`am_trampoline`, which is private to its module. -/
def start (trampoline : NonNull) (world : World Captured) (op : Op Captured) :
    Option (World Captured) :=
  if world.dropped then none
  else
    match op with
    | amRegister amParam => if amParam.handle.cb = trampoline.val then none else some world
    | drop => some { world with dropped := true }
    | _ => some world

def isRegistration : Op Captured → Bool
  | amRegisterHandler _ _ _ _ => true
  | _ => false

end Op

def system (trampoline : NonNull) (worker : Worker) :
    System (World Captured) (Op Captured) Message (Effect Captured) Effect.Reply
      Op.Result where
  start := Op.start trampoline
  code := Op.code trampoline worker
  perform := World.perform trampoline
  occur := World.deliver trampoline

end HandlerRegistration

end UcxRs
