import UcxRs.AtomicSections
import UcxRs.WorkerCalls
import UcxRs.WorkerSerialisation

/-!
# `MtWorker` as a worker with atomic operations

What `MtWorker` is for: every clone has the operations of the one worker behind it, and
each of them happens at one moment.  Threads that lock the mutex around the calls of
`Worker` do just that, whatever UCX answers and however they are scheduled.

`wait_request` is the exception, and its plan says how far it goes: its progress calls are
operations like any other, and each status check sees UCX as it is, between two operations
or in the middle of another thread's.
-/

namespace UcxRs

namespace WorkerAtomicity

open AtomicSections
open Interaction (Program)
open LockedThreads
open TransitionRuns (EveryStep runFrom)
open UnwindingMutex (Completion)
open WorkerSerialisation (Method)

/-- The operations that `MtWorker` offers of its worker. -/
inductive Operation where
  | progress
  | flush (params : RequestParam)
  | fence
  | wait
  | arm
  | signal
  | getEfd
  | cancelRequest (request : Request)
  | createEp (epParams : Ep.Params)
  | packAddress
  | withWorker (operation : Worker → Ffi (Completion Unit))

/-- The copy of a packed address, which is released at once. -/
def copyAddress (worker : Worker) : Ffi (Except Status (List (BitVec 8))) := do
  match ← worker.packAddress with
  | .ok address => do
      let bytes := address.toVec
      address.drop
      pure (.ok bytes)
  | .error error => pure (.error error)

namespace Operation

abbrev Result : Operation → Type
  | progress => Bool
  | flush _ => Except Status (Option Request)
  | fence | wait | arm | signal => Except Status Unit
  | getEfd => Except Status (BitVec 32)
  | cancelRequest _ => Unit
  | createEp _ => Except Status Ep
  | packAddress => Except Status (List (BitVec 8))
  | withWorker _ => Completion Unit

/-- The operation on the worker itself, with no mutex about it. -/
def program (worker : Worker) : (operation : Operation) → Ffi operation.Result
  | progress => worker.progress
  | flush params => worker.flush params
  | fence => worker.fence
  | wait => worker.wait
  | arm => worker.arm
  | signal => worker.signal
  | getEfd => worker.getEfd
  | cancelRequest request => worker.cancelRequest request
  | createEp epParams => worker.createEp epParams
  | packAddress => copyAddress worker
  | withWorker operation => operation worker

/-- The guard is dropped while the thread unwinds. -/
def unwinding : (operation : Operation) → operation.Result → Bool
  | withWorker _, completion => completion.isPanic
  | _, _ => false

end Operation

/-- Status checks only look at a request. -/
def IsCheck (call : Call) : Prop :=
  ∃ handle, call = .ucpRequestCheckStatus handle

abbrev WorkerPlan (Value : Type) : Type :=
  @Plan Call Operation Answer Operation.Result Value

/-- A method in terms of operations: one operation, or the rounds of `wait_request`. -/
def plan : Method → WorkerPlan Unit
  | .progress => performing .progress >>= fun _ => pure ()
  | .flush params => performing (.flush params) >>= fun _ => pure ()
  | .fence => performing .fence >>= fun _ => pure ()
  | .wait => performing .wait >>= fun _ => pure ()
  | .arm => performing .arm >>= fun _ => pure ()
  | .signal => performing .signal >>= fun _ => pure ()
  | .getEfd => performing .getEfd >>= fun _ => pure ()
  | .cancelRequest request => performing (.cancelRequest request) >>= fun _ => pure ()
  | .waitRequest request => waitRequest request >>= fun _ => pure ()
  | .createEp epParams => performing (.createEp epParams) >>= fun _ => pure ()
  | .packAddress => performing .packAddress >>= fun _ => pure ()
  | .withWorker operation => performing (.withWorker operation) >>= fun _ => pure ()
where
  waitRequest (request : Request) : WorkerPlan (Except Status Bool) :=
    Program.forRounds
      (do
        match ← looking request.checkFinished with
        | .ok true => pure (some (.ok true))
        | .ok false =>
            let _ ← performing .progress
            pure none
        | .error error => pure (some (.error error)))
      (pure (.ok false)) 1000000

section Bodies

variable (mt : MtWorker)

theorem follows_discard {Result : Type} {code : Code Answer Result} {plan : WorkerPlan Result}
    (follows : Follows IsCheck (Operation.program mt.worker) code plan) :
    Follows IsCheck (Operation.program mt.worker) (code >>= fun _ => pure ())
      (plan >>= fun _ => pure ()) :=
  follows.bind fun _ => .done ()

/-- The code of every method but one: an operation under the mutex. -/
theorem follows_operation (operation : Operation) :
    Follows IsCheck (Operation.program mt.worker)
      ((.issue .lock fun _ => sectioned (operation.program mt.worker) operation.unwinding .done :
        Code Answer operation.Result) >>= fun _ => pure ())
      (performing operation >>= fun _ => pure ()) :=
  follows_discard mt (follows_section operation operation.unwinding)

theorem follows_waitRequest (request : Request) :
    Follows IsCheck (Operation.program mt.worker) (mt.waitRequest request)
      (plan.waitRequest request) := by
  have checks : Follows IsCheck (Operation.program mt.worker)
      (Code.lift request.checkFinished) (looking request.checkFinished) :=
    follows_lift (WorkerWorld.everyCall_checkFinished request fun handle => ⟨handle, rfl⟩)
  have progresses : Follows IsCheck (Operation.program mt.worker) mt.progress
      (performing Operation.progress) :=
    follows_section Operation.progress (Operation.unwinding .progress)
  refine Follows.forRounds (checks.bind fun finished => ?_) (.done _) _
  rcases finished with error | _ | _
  · exact .done _
  · exact progresses.bind fun _ => .done _
  · exact .done _

theorem follows_body (method : Method) :
    Follows IsCheck (Operation.program mt.worker) (method.body mt) (plan method) := by
  cases method with
  | progress => exact follows_operation mt .progress
  | flush params => exact follows_operation mt (.flush params)
  | fence => exact follows_operation mt .fence
  | wait => exact follows_operation mt .wait
  | arm => exact follows_operation mt .arm
  | signal => exact follows_operation mt .signal
  | getEfd => exact follows_operation mt .getEfd
  | cancelRequest request => exact follows_operation mt (.cancelRequest request)
  | waitRequest request => exact follows_discard mt (follows_waitRequest mt request)
  | createEp epParams => exact follows_operation mt (.createEp epParams)
  | packAddress => exact follows_operation mt .packAddress
  | withWorker operation => exact follows_operation mt (.withWorker operation)

end Bodies

/-- For every UCX whose status checks change nothing, and in every interleaving of any
number of threads, poisoned or not: what threads do with clones of one `MtWorker` is what
some run of atomic operations of the worker does, from the same state of UCX. -/
theorem mtWorker_refines_atomic_worker {State : Type} (mt : MtWorker)
    (ucx : Library Answer State IsCheck) (poisoned : Bool) (state : State)
    (run : List (Label Answer Method)) :
    EveryStep (sharedStep ucx (Method.body mt))
      (fun _ _ next => ∃ moves planned,
        runFrom (plannedStep ucx (Operation.program mt.worker) plan) (.initial state) moves =
            some planned ∧
          Refines ucx (Operation.program mt.worker) next planned)
      ⟨.initial poisoned, state⟩ run :=
  atomic_of_follows ucx (follows_body mt) poisoned state run

/-- A UCX that counts its progress calls.  Requests are complete after the first one, and
their status checks leave the count alone. -/
def countingUcx : Library Answer Nat IsCheck where
  accepts progressed
    | .ucpWorkerProgress _, _ => some (progressed + 1)
    | .ucpRequestCheckStatus _, status =>
        if status = (if progressed = 0 then .inProgress else .ok) then some progressed else none
    | _, _ => some progressed
  reads := by
    rintro progressed _ answer next ⟨handle, rfl⟩ accepted
    obtain ⟨-, same⟩ := Option.ite_none_right_eq_some.mp accepted
    exact (Option.some.inj same).symm

def answering (status : UcsStatus) : Answers Answer
  | .ucpWorkerProgress _ => some (1 : Nat)
  | .ucpRequestCheckStatus _ => some status
  | _ => none

/-- A thread waits for a request.  Its first check falls into the progress call of another
thread, and its second one comes after both threads' calls. -/
def waiting : List (Label Answer Method) :=
  [.start 0 .progress, .acquire 0, .enter 0,
    .start 1 (.waitRequest ⟨some WorkerSerialisation.pendingRequest⟩), .enter 1,
    .leave 1 (answering .inProgress), .leave 0 (answering .ok), .release 0, .finish 0,
    .acquire 1, .enter 1, .leave 1 (answering .ok), .release 1, .enter 1,
    .leave 1 (answering .ok)]

/-- The two progress calls are two atomic operations. -/
theorem waiting_refines_atomic_worker :
    ∃ final moves planned,
      runFrom (sharedStep countingUcx (Method.body WorkerSerialisation.sharedWorker))
          ⟨.initial false, 0⟩ (waiting ++ [.finish 1]) = some final ∧
        runFrom (plannedStep countingUcx
            (Operation.program WorkerSerialisation.sharedWorker.worker) plan) (.initial 0)
            moves = some planned ∧
          Refines countingUcx (Operation.program WorkerSerialisation.sharedWorker.worker)
            final planned ∧
          final.state = 2 ∧ planned.state = 2 := by
  have refined := (mtWorker_refines_atomic_worker WorkerSerialisation.sharedWorker countingUcx
    false 0 (waiting ++ [.finish 1])).of_split rfl rfl
  obtain ⟨moves, planned, performed, refines⟩ := refined
  exact ⟨_, moves, planned, rfl, performed, refines, rfl, (refines.free rfl).symm⟩

end WorkerAtomicity

end UcxRs
