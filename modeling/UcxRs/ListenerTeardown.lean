import UcxRs.ListenerWorld

/-!
# Teardown of a listener while its worker is progressed

A small-step model of two threads that share one `ListenerState` whose listener
was created with a connection handler.  One thread drops the values that own
the state; the other drives progress, and UCX may start the connection callback
on it until `ucp_listener_destroy` has returned.  Every access to the strong
count, to a mutex and to UCX is a step of its own.

Left alone, a thread in the destructor does what `ListenerState.drop` does in
one piece.
-/

namespace UcxRs

namespace ListenerTeardown

open TransitionRuns
open UnwindingMutex (Completion)

/-- Where a thread stands in the drop of the state: in `Drop for ListenerState`,
or in the drop of the fields after it. -/
inductive Destructor where
  | lockHandle
  | callDestroy (handle : ListenerHandle)
  | insideDestroy (handle : ListenerHandle)
  | resetHandle
  | dropFields
  deriving DecidableEq, Repr

/-- Where a thread stands.  `handling` is inside the closure, which has not yet
disposed of the request when it is given; `returning` is about to drop
`callback_state`, with the request still to be dropped after it when the
closure did not take it. -/
inductive Thread where
  | idle
  | entered (request : ConnRequestPointer)
  | counted (request : ConnRequestPointer)
  | cloned (request : ConnRequestPointer)
  | handling (request : Option ConnRequestPointer)
  | returning (holdsRequest : Bool)
  | droppingRequest
  | destructor (stage : Destructor) (resume : Thread)
  deriving DecidableEq, Repr

namespace Thread

/-- The strong references that a thread holds in its local variables. -/
def references : Thread → Nat
  | idle => 0
  | entered _ => 0
  | counted _ => 1
  | cloned _ => 2
  | handling request => request.toList.length + 1
  | returning holdsRequest => holdsRequest.toNat + 1
  | droppingRequest => 1
  | destructor _ resume => resume.references

/-- The thread that drops a reference continues with the destructor of the
state when the reference was the last one. -/
def afterRelease (strong : Nat) (resume : Thread) : Thread :=
  if strong = 1 then destructor .lockHandle resume else resume

def afterStage (next : Option Destructor) (resume : Thread) : Thread :=
  match next with
  | some stage => destructor stage resume
  | none => resume

def runsDestructor : Thread → Bool
  | destructor _ _ => true
  | _ => false

/-- The callback has started and has not taken its reference yet. -/
def hasEntered : Thread → Bool
  | entered _ => true
  | _ => false

end Thread

/-- What happened, in the log newest first. -/
inductive Event where
  | tookReference (strong : Nat)
  | stateDropBegan
  | destroyCalled (handle : ListenerHandle)
  | closureRan
  | closureDropped
  deriving DecidableEq, Repr

/-- `owners` counts the `Listener` and the `ConnRequest` values that have left
the callback. -/
structure World where
  strong : Nat
  data : ListenerState
  owners : Nat
  dropper : Thread
  progress : Thread
  ucxListening : Bool
  log : List Event
  deriving DecidableEq, Repr

/-- `create_with_conn_handler` has returned a listener. -/
def World.created (callback : ConnCallback) (handle : ListenerHandle) : World where
  strong := 1
  data := (ListenerState.unpublished callback).publish handle
  owners := 1
  dropper := .idle
  progress := .idle
  ucxListening := true
  log := []

namespace World

def record (world : World) (event : Event) : World :=
  { world with log := event :: world.log }

/-- Drop one strong reference. -/
def releaseArc (world : World) : World :=
  { world with
    strong := world.strong - 1
    log := if world.strong = 1 then .stateDropBegan :: world.log else world.log }

/-- `self.handle.lock().map(|mut h| *h = 0)`. -/
def clearHandle (data : ListenerState) : ListenerState :=
  match data.handle.lock with
  | .ok _ => { data with handle := data.handle.unlock ⟨0⟩ false }
  | .error _ => data

/-- One step of the destructor, with the stage after it. -/
def destructorStep (world : World) : Destructor → World × Option Destructor
  | .lockHandle =>
      let handle := world.data.handle.lockIgnoringPoison
      (world, some (if handle.address ≠ 0 then .callDestroy handle else .resetHandle))
  | .callDestroy handle =>
      (world.record (.destroyCalled handle), some (.insideDestroy handle))
  | .insideDestroy _ => ({ world with ucxListening := false }, some .resetHandle)
  | .resetHandle => ({ world with data := clearHandle world.data }, some .dropFields)
  | .dropFields => (world.record .closureDropped, none)

/-- The next step of the progress thread outside the closure: of
`conn_trampoline`, or of a destructor it runs. -/
def progressStep (world : World) : Option World :=
  match world.progress with
  | .idle => none
  | .entered request =>
      some { world.record (.tookReference world.strong) with
        strong := world.strong + 1
        progress := .counted request }
  | .counted request =>
      some { world with
        strong := world.strong + 1
        progress := .cloned request }
  | .cloned request =>
      match world.data.connHandler with
      | none => some { world with progress := .returning true }
      | some handler =>
          match handler.lock with
          | .error _ => some { world with progress := .returning true }
          | .ok _ =>
              some { world.record .closureRan with
                progress := .handling (some request) }
  | .handling _ => none
  | .returning holdsRequest =>
      some { world.releaseArc with
        progress := .afterRelease world.strong
          (if holdsRequest then .droppingRequest else .idle) }
  | .droppingRequest =>
      some { world.releaseArc with progress := .afterRelease world.strong .idle }
  | .destructor stage resume =>
      let (after, next) := world.destructorStep stage
      some { after with progress := .afterStage next resume }

end World

/-- What the closure does with the request it was given and with the other
values it can reach, until it returns or panics. -/
inductive ClosureAction where
  | dropRequest
  | keepRequest
  | dropOwner
  | finish (completion : Completion Unit)
  deriving DecidableEq, Repr

/-- The handler's guard is dropped after `catch_unwind` has returned. -/
def World.closureStep (world : World) (request : Option ConnRequestPointer) :
    ClosureAction → Option World
  | .dropRequest =>
      if request.isSome then
        some { world.releaseArc with
          progress := .afterRelease world.strong (.handling none) }
      else none
  | .keepRequest =>
      if request.isSome then
        some { world with
          owners := world.owners + 1
          progress := .handling none }
      else none
  | .dropOwner =>
      if 0 < world.owners then
        some { world.releaseArc with
          owners := world.owners - 1
          progress := .afterRelease world.strong (.handling request) }
      else none
  | .finish completion =>
      if request.isNone then
        some { world with
          data := { world.data with
            connHandler := world.data.connHandler.map fun handler =>
              handler.unlock handler.value completion.catchUnwind.isPanic }
          progress := .returning false }
      else none

inductive Label where
  | dropOwner
  | dropper
  | startCallback (request : ConnRequestPointer)
  | progress
  | closure (action : ClosureAction)
  deriving DecidableEq, Repr

def step (world : World) : Label → Option World
  | .dropOwner =>
      if world.dropper = .idle ∧ 0 < world.owners then
        some { world.releaseArc with
          owners := world.owners - 1
          dropper := .afterRelease world.strong .idle }
      else none
  | .dropper =>
      match world.dropper with
      | .destructor stage resume =>
          let (after, next) := world.destructorStep stage
          some { after with dropper := .afterStage next resume }
      | _ => none
  | .startCallback request =>
      if world.ucxListening ∧ world.progress = .idle then
        some { world with progress := .entered request }
      else none
  | .progress => world.progressStep
  | .closure action =>
      match world.progress with
      | .handling request => world.closureStep request action
      | _ => none

theorem drop_of_null {data : ListenerState} (null : data.handle.value.address = 0) :
    data.drop = .done (World.clearHandle data) := by
  unfold ListenerState.drop World.clearHandle
  rw [UnwindingMutex.Mutex.lockIgnoringPoison_eq]
  simp only [null, ne_eq, not_true_eq_false, if_false]
  cases data.handle.lock <;> rfl

theorem drop_of_nonNull {data : ListenerState}
    (nonNull : data.handle.value.address ≠ 0) :
    data.drop = .issue (.ucpListenerDestroy data.handle.value) fun _ =>
      .done (World.clearHandle data) := by
  unfold ListenerState.drop World.clearHandle
  rw [UnwindingMutex.Mutex.lockIgnoringPoison_eq]
  simp only [nonNull, ne_eq, not_false_eq_true, if_true]
  cases data.handle.lock <;> rfl

variable {world : World}

theorem step_lockHandle {resume : Thread}
    (dropping : world.dropper = .destructor .lockHandle resume) :
    step world .dropper = some { world with
      dropper := .destructor
        (if world.data.handle.value.address ≠ 0 then .callDestroy world.data.handle.value
          else .resetHandle) resume } := by
  unfold step
  rw [dropping]
  simp only [World.destructorStep, UnwindingMutex.Mutex.lockIgnoringPoison_eq,
    Thread.afterStage]

/-- The dropping thread left alone makes the calls of `Drop for ListenerState`, leaves what
it leaves, and drops the closure last. -/
def RunsDrop (world : World) (resume : Thread) : Prop :=
  ∃ rounds final calls,
    world.data.drop.execute (ListenerOwnership.answering .ok) [] =
      ⟨some final.data, calls⟩ ∧
    runFrom step world (List.replicate rounds .dropper) = some final ∧
    final.dropper = resume ∧
    final.log = .closureDropped ::
      (calls.filterMap ListenerOwnership.destroyedHandle).map Event.destroyCalled ++
        world.log

theorem destructor_runs_drop {resume : Thread}
    (dropping : world.dropper = .destructor .lockHandle resume) : RunsDrop world resume := by
  have locked := step_lockHandle dropping
  by_cases null : world.data.handle.value.address = 0
  · rw [if_neg (not_not.mpr null)] at locked
    refine ⟨3, { world with
      data := World.clearHandle world.data
      dropper := resume
      log := .closureDropped :: world.log }, [], ?_, ?_, rfl, rfl⟩
    · rw [drop_of_null null]
      rfl
    · rw [List.replicate_succ, runFrom_cons, locked]
      rfl
  · rw [if_pos null] at locked
    refine ⟨5, { world with
      data := World.clearHandle world.data
      dropper := resume
      ucxListening := false
      log := .closureDropped :: .destroyCalled world.data.handle.value :: world.log },
      [.ucpListenerDestroy world.data.handle.value], ?_, ?_, rfl, rfl⟩
    · rw [drop_of_nonNull null]
      rfl
    · rw [List.replicate_succ, runFrom_cons, locked]
      rfl

end ListenerTeardown

end UcxRs
