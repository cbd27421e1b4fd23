import UcxRs.Listener
import UcxRs.TransitionRuns

/-!
# The world of listeners and their references

The listener API calls and the deliveries of the connection callback are the
atomic steps of a world.  The world holds the `ListenerState` allocations with
their strong counts, the Rust values that own a reference, what UCX has done
with each listener, and a log of what happened, newest event first.

The strong count is changed where the source changes it:
`increment_strong_count`, `Arc::clone`, and the drop of a reference; making a
value from a raw pointer does not touch it.
-/

namespace UcxRs

namespace ListenerOwnership

open Interaction (Environment Execution)
open UnwindingMutex (Completion Mutex)

/-- A Rust value that owns a reference to a listener state.  A creation in
progress owns one through the local variable of
`create_with_conn_handler`. -/
inductive Value where
  | creating (state : ListenerRef)
  | listener (state : ListenerRef)
  | connRequest (request : ConnRequest)
  deriving DecidableEq, Repr

def Value.state : Value → ListenerRef
  | creating state => state
  | listener state => state
  | connRequest request => request.state

/-- What UCX has done with the listener whose callback argument is a state. -/
inductive UcxListener where
  | absent
  | creating
  | listening (handle : ListenerHandle)
  | failed
  | destroyed (handle : ListenerHandle)
  deriving DecidableEq, Repr

/-- UCX may run the callback from inside `ucp_listener_create` until the
listener is destroyed. -/
def UcxListener.mayDeliver : UcxListener → Bool
  | creating => true
  | listening _ => true
  | _ => false

/-- What happened, each event with the state it is about. -/
inductive Event where
  | created (state : ListenerRef) (handle : ListenerHandle)
  | stateDropped (state : ListenerRef) (calls : List Call)
  | closureDropped (state : ListenerRef)
  | invoked (state : ListenerRef) (panicked : Bool)
  | rejected (state : ListenerRef) (request : ConnRequest) (calls : List Call)
  | rejectedOwned (request : ConnRequest)
      (execution : Execution Call (Except Status Unit))

def Event.state : Event → ListenerRef
  | created state _ => state
  | stateDropped state _ => state
  | closureDropped state => state
  | invoked state _ => state
  | rejected state _ _ => state
  | rejectedOwned request _ => request.state

/-- The contents of an `Arc<ListenerState>` allocation. -/
structure ArcInner where
  strong : Nat
  data : ListenerState
  deriving DecidableEq, Repr

structure World where
  heap : ListenerRef → Option ArcInner
  values : List Value
  ucx : ListenerRef → UcxListener
  nextAllocation : Nat
  log : List Event

def World.initial : World where
  heap := fun _ => none
  values := []
  ucx := fun _ => .absent
  nextAllocation := 0
  log := []

/-- UCX returns from the calls of a listener, a rejection with a status. -/
def answering (status : UcsStatus) : Environment Call Answer :=
  fun _ call =>
    match call with
    | .ucpListenerReject _ _ => some status
    | .ucpListenerDestroy _ => some ()
    | _ => none

def destroyedHandle : Call → Option ListenerHandle
  | .ucpListenerDestroy handle => some handle
  | _ => none

/-- UCX's side of the calls that a destructor makes. -/
def UcxListener.afterCalls (listener : UcxListener) (calls : List Call) : UcxListener :=
  match calls.filterMap destroyedHandle with
  | [] => listener
  | handle :: _ => .destroyed handle

namespace World

def setCell (world : World) (state : ListenerRef) (cell : Option ArcInner) : World :=
  { world with heap := Function.update world.heap state cell }

def setUcx (world : World) (state : ListenerRef) (listener : UcxListener) : World :=
  { world with ucx := Function.update world.ucx state listener }

def record (world : World) (event : Event) : World :=
  { world with log := event :: world.log }

/-- `Arc::increment_strong_count`, and the count of `Arc::clone`. -/
def incrementStrongCount (world : World) (state : ListenerRef) : World :=
  match world.heap state with
  | none => world
  | some inner =>
      world.setCell state (some { inner with strong := inner.strong + 1 })

/-- The last reference drops the state: its destructor runs, then the closure
field is dropped, then the allocation is freed. -/
def dropState (world : World) (state : ListenerRef) (data : ListenerState) : World :=
  let calls := (data.drop.execute (answering .ok) []).calls
  let world := ((world.setCell state none).setUcx state
    ((world.ucx state).afterCalls calls)).record (.stateDropped state calls)
  if data.connHandler.isSome then world.record (.closureDropped state) else world

/-- Drop one `Arc<ListenerState>`. -/
def dropArc (world : World) (state : ListenerRef) : World :=
  match world.heap state with
  | none => world
  | some inner =>
      if inner.strong = 1 then world.dropState state inner.data
      else world.setCell state (some { inner with strong := inner.strong - 1 })

/-- `Arc::from_raw`: a value that owns a reference already counted. -/
def own (world : World) (value : Value) : World :=
  { world with values := value :: world.values }

def giveUp (world : World) (value : Value) : World :=
  { world with values := world.values.erase value }

/-- Give up one owned value and drop its reference. -/
def dropValue (world : World) (value : Value) : World :=
  (world.giveUp value).dropArc value.state

end World

/-- A call of the listener API, with the status UCX answers. -/
inductive ApiCall where
  | beginCreate (callback : ConnCallback)
  | endCreate (state : ListenerRef) (status : UcsStatus) (handle : ListenerHandle)
  | dropListener (state : ListenerRef)
  | dropRequest (request : ConnRequest)
  | reject (listener : ListenerRef) (request : ConnRequest) (status : UcsStatus)
  | rejectOwned (request : ConnRequest) (status : UcsStatus)
  deriving DecidableEq, Repr

namespace World

/-- Up to the call of `ucp_listener_create`: allocate the state. -/
def beginCreate (world : World) (callback : ConnCallback) : World :=
  let state : ListenerRef := ⟨world.nextAllocation⟩
  { world with
    heap := Function.update world.heap state (some ⟨1, .unpublished callback⟩)
    values := .creating state :: world.values
    ucx := Function.update world.ucx state .creating
    nextAllocation := world.nextAllocation + 1 }

/-- After `ucp_listener_create` returned: publish the handle and return the
listener, or drop the local reference. -/
def endCreate (world : World) (state : ListenerRef) (status : UcsStatus)
    (handle : ListenerHandle) : World :=
  match statusToResult status with
  | .ok () =>
      match world.heap state with
      | none => world
      | some inner =>
          let world := (world.setUcx state (.listening handle)).setCell state
            (some { inner with data := inner.data.publish handle })
          let world := (world.giveUp (.creating state)).own (.listener state)
          world.record (.created state handle)
  | .error _ => (world.setUcx state .failed).dropValue (.creating state)

/-- `Listener::reject`: the request is dropped when the function returns. -/
def reject (world : World) (listener : ListenerRef) (request : ConnRequest)
    (status : UcsStatus) : World :=
  match world.heap listener with
  | none => world
  | some inner =>
      let execution := (inner.data.reject request).execute (answering status) []
      (world.record (.rejected listener request execution.calls)).dropValue
        (.connRequest request)

/-- `ConnRequest::reject_owned`, which consumes the request. -/
def rejectOwned (world : World) (request : ConnRequest) (status : UcsStatus) : World :=
  match world.heap request.state with
  | none => world
  | some inner =>
      let execution := (inner.data.rejectOwned request).execute (answering status) []
      (world.record (.rejectedOwned request execution)).dropValue
        (.connRequest request)

/-- A value can be used only while it is owned.  UCX returns a non-null handle
with `UCS_OK`, and otherwise an error. -/
def apiCall (world : World) : ApiCall → Option World
  | .beginCreate callback => some (world.beginCreate callback)
  | .endCreate state status handle =>
      if Value.creating state ∈ world.values ∧
          (status.isErr ∨ status = .ok ∧ handle.address ≠ 0) then
        some (world.endCreate state status handle)
      else none
  | .dropListener state =>
      if Value.listener state ∈ world.values then
        some (world.dropValue (.listener state))
      else none
  | .dropRequest request =>
      if Value.connRequest request ∈ world.values then
        some (world.dropValue (.connRequest request))
      else none
  | .reject listener request status =>
      if Value.listener listener ∈ world.values ∧
          Value.connRequest request ∈ world.values then
        some (world.reject listener request status)
      else none
  | .rejectOwned request status =>
      if Value.connRequest request ∈ world.values then
        some (world.rejectOwned request status)
      else none

end World

/-- What the user's closure does when it runs: API calls on the values it can
reach, the delivered request among them, and how it completes.  A request that
no call consumes has been moved out of the closure. -/
structure Behaviour where
  calls : List ApiCall
  completion : Completion Unit

namespace World

/-- Drop the guard of the connection handler of a state. -/
def unlockHandler (world : World) (state : ListenerRef) (unwinding : Bool) : World :=
  match world.heap state with
  | none => world
  | some inner =>
      world.setCell state (some { inner with data := { inner.data with
        connHandler := inner.data.connHandler.map fun handler =>
          handler.unlock handler.value unwinding } })

def runCalls : World → List ApiCall → Option World
  | world, [] => some world
  | world, call :: calls => (world.apiCall call).bind fun world => world.runCalls calls

/-- The closure runs under `catch_unwind`, inside the scope of the guard. -/
def runHandler (world : World) (state : ListenerRef) (behaviour : Behaviour) :
    Option (Completion Unit × World) :=
  (world.runCalls behaviour.calls).map fun world =>
    let world := world.record (.invoked state behaviour.completion.isPanic)
    let caught := behaviour.completion.catchUnwind
    (caught.discard, world.unlockHandler state caught.isPanic)

/-- `conn_trampoline`, with how it completes.  Besides the request it holds one
more reference, `callback_state`, until it returns. -/
def connTrampoline (world : World) (connRequest : ConnRequestPointer)
    (arg : Option ListenerRef) (behaviour : Behaviour) :
    Option (Completion Unit × World) :=
  match arg with
  | none => some (.returned (), world)
  | some state =>
      let world := world.incrementStrongCount state
      let request : ConnRequest := ⟨connRequest, state⟩
      let world := world.own (.connRequest request)
      let world := world.incrementStrongCount request.state
      match world.heap state with
      | none => none
      | some inner =>
          match inner.data.connHandler with
          | none =>
              some (.returned (), (world.dropArc state).dropValue (.connRequest request))
          | some handler =>
              match handler.lock with
              | .error _ =>
                  some (.returned (),
                    (world.dropArc state).dropValue (.connRequest request))
              | .ok _ =>
                  (world.runHandler state behaviour).map fun (completion, world) =>
                    (completion, world.dropArc state)

end World

inductive Label where
  | api (call : ApiCall)
  | deliver (state : ListenerRef) (connRequest : ConnRequestPointer)
      (behaviour : Behaviour)

def step (world : World) : Label → Option World
  | .api call => world.apiCall call
  | .deliver state connRequest behaviour =>
      if (world.ucx state).mayDeliver then
        (world.connTrampoline connRequest (some state) behaviour).map Prod.snd
      else none

end ListenerOwnership

end UcxRs
