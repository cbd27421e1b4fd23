import UcxRs.RequestHandles
import UcxRs.WorkerOperations

/-!
# Which calls `MtWorker` serialises

Threads share clones of one `MtWorker` and call its methods in any order.  A
method that locks the mutex makes all of its calls under it, a panic of a
`with_worker` operation included.  `wait_request` locks the mutex for each
progress call only: its status check is made bare, and that check is the one
call by which two threads can be inside UCX for the same worker.
-/

namespace UcxRs

namespace WorkerSerialisation

open Interaction (Program)
open LockedThreads
open RequestHandles (namedRequest)
open TransitionRuns (EveryStep runFrom)
open UnwindingMutex (Completion)

/-- The methods that threads call through clones of one `MtWorker`. -/
inductive Method where
  | progress
  | flush (params : RequestParam)
  | fence
  | wait
  | arm
  | signal
  | getEfd
  | cancelRequest (request : Request)
  | waitRequest (request : Request)
  | createEp (epParams : Ep.Params)
  | packAddress
  | withWorker (operation : Worker → Ffi (Completion Unit))

/-- The code of a method; its result goes back to the caller. -/
def Method.body (mt : MtWorker) : Method → Code Answer Unit
  | .progress => mt.progress >>= fun _ => pure ()
  | .flush params => mt.flush params >>= fun _ => pure ()
  | .fence => mt.fence >>= fun _ => pure ()
  | .wait => mt.wait >>= fun _ => pure ()
  | .arm => mt.arm >>= fun _ => pure ()
  | .signal => mt.signal >>= fun _ => pure ()
  | .getEfd => mt.getEfd >>= fun _ => pure ()
  | .cancelRequest request => mt.cancelRequest request >>= fun _ => pure ()
  | .waitRequest request => mt.waitRequest request >>= fun _ => pure ()
  | .createEp epParams => mt.createEp epParams >>= fun _ => pure ()
  | .packAddress => mt.packAddress >>= fun _ => pure ()
  | .withWorker operation => mt.withWorker operation >>= fun _ => pure ()

/-- The worker that UCX allocated a request or an address for. -/
structure Allocations where
  requestOf : NonNull → WorkerHandle
  addressOf : AddressPointer → WorkerHandle

/-- The worker that a call is given. -/
def workerArgument : Call → Option WorkerHandle
  | .ucpRequestCancel worker _ => some worker
  | .ucpRequestAlloc worker => some worker
  | .ucpWorkerProgress worker => some worker
  | .ucpWorkerFlushNbx worker _ => some worker
  | .ucpWorkerDestroy worker => some worker
  | .ucpTagRecvNbx worker _ _ _ _ => some worker
  | .ucpTagProbeNb worker _ _ _ => some worker
  | .ucpTagMsgRecvNbx worker _ _ _ => some worker
  | .ucpTagMsgRecvNb worker _ _ _ => some worker
  | .ucpStreamWorkerPoll worker _ _ => some worker
  | .ucpAmRecvDataNbx worker _ _ _ => some worker
  | .ucpEpCreate worker _ => some worker
  | .ucpRkeyCompare worker _ _ _ => some worker
  | .ucpWorkerFence worker => some worker
  | .ucpWorkerArm worker => some worker
  | .ucpWorkerWait worker => some worker
  | .ucpWorkerSignal worker => some worker
  | .ucpWorkerGetEfd worker => some worker
  | .ucpWorkerGetAddress worker => some worker
  | .ucpWorkerReleaseAddress worker _ => some worker
  | .ucpWorkerQuery worker _ => some worker
  | .ucpWorkerSetAmRecvHandler worker _ => some worker
  | _ => none

/-- The worker address that a call is given. -/
def addressArgument : Call → Option AddressPointer
  | .ucpWorkerReleaseAddress _ address => some address
  | _ => none

/-- The call names the worker, one of its requests or one of its addresses. -/
def Names (allocations : Allocations) (worker : Worker) (request : Call) : Prop :=
  workerArgument request = some worker.handle ∨
    (namedRequest request).map allocations.requestOf = some worker.handle ∨
    (addressArgument request).map allocations.addressOf = some worker.handle

/-- The status check that `wait_request` makes without the mutex. -/
def Unlocked : Method → Call → Prop
  | .waitRequest request, .ucpRequestCheckStatus handle => request.handle = some handle
  | _, _ => False

section Bodies

variable {needs : Call → Prop} {Result : Type}

/-- The method's result is of no further concern to the mutex. -/
theorem guarded_discard {bare : Call → Prop} {code : Code Answer Result}
    (guarded : Code.Guarded needs bare false false code) :
    Code.Guarded needs bare false false (code >>= fun _ => pure ()) :=
  guarded.bind fun _ => rfl

/-- A method that takes the mutex around its operation. -/
theorem guarded_holdingLock {bare : Call → Prop} (mt : MtWorker)
    (operation : Worker → Ffi Result) (noneBare : ∀ request, ¬ bare request) :
    Code.Guarded needs bare false false (mt.holdingLock operation) :=
  Code.guarded_locked (Program.everyCall_of_forall noneBare _)

theorem guarded_withWorker {bare : Call → Prop} (mt : MtWorker)
    (operation : Worker → Ffi (Completion Result)) (noneBare : ∀ request, ¬ bare request) :
    Code.Guarded needs bare false false (mt.withWorker operation) :=
  Code.guarded_lockedUnwinding (Program.everyCall_of_forall noneBare _)

/-- `wait_request` checks bare and makes progress under the mutex. -/
theorem guarded_waitRequest (mt : MtWorker) (request : Request) :
    Code.Guarded needs (Unlocked (.waitRequest request)) false false
      (mt.waitRequest request) := by
  have checks : Code.Guarded needs (Unlocked (.waitRequest request)) false false
      (Code.lift request.checkFinished) := by
    apply Code.guarded_lift
    obtain ⟨_ | handle⟩ := request
    · trivial
    · rw [Request.checkFinished_some]
      refine ⟨fun _ => ?_, fun _ => trivial⟩
      exact iff_of_false Bool.false_ne_true fun notBare => notBare rfl
  have progresses : Code.Guarded needs (Unlocked (.waitRequest request)) false false
      mt.progress := by
    apply Code.guarded_locked
    exact ⟨id, fun _ => trivial⟩
  refine Code.Guarded.forRounds (checks.bind fun finished => ?_) ?_ _
  swap
  · rfl
  rcases finished with error | _ | _
  · rfl
  · exact progresses.bind fun _ => rfl
  · rfl

/-- Every method makes its calls under the mutex, the status check of
`wait_request` excepted. -/
theorem guarded_body (mt : MtWorker) (method : Method) :
    Code.Guarded needs (Unlocked method) false false (method.body mt) := by
  cases method with
  | waitRequest request => exact guarded_discard (guarded_waitRequest mt request)
  | withWorker operation => exact guarded_discard (guarded_withWorker mt _ fun _ => id)
  | _ => exact guarded_discard (guarded_holdingLock mt _ fun _ => id)

end Bodies

/-- A step takes a thread that runs `wait_request` into the status check of a
request of the worker. -/
def ChecksUnlocked (allocations : Allocations) (worker : Worker)
    (before : World Answer Method) (label : Label Answer Method) : Prop :=
  ∃ thread request handle resume, label = .enter thread ∧
    before.threads thread = .running (.waitRequest request)
      (.issue (.call (.ucpRequestCheckStatus handle)) resume) ∧
    request.handle = some handle ∧ allocations.requestOf handle = worker.handle

theorem entersBare_iff_checksUnlocked (allocations : Allocations) (worker : Worker)
    (before : World Answer Method) (label : Label Answer Method) :
    EntersBare (Names allocations worker) Unlocked before label ↔
      ChecksUnlocked allocations worker before label := by
  constructor
  · intro enters
    cases label with
    | enter thread =>
        obtain ⟨method, request, resume, found, needed, bare⟩ := enters
        cases method with
        | waitRequest waited =>
            cases request with
            | ucpRequestCheckStatus handle =>
                refine ⟨thread, waited, handle, resume, rfl, found, bare, ?_⟩
                simpa [Names, workerArgument, namedRequest, addressArgument] using needed
            | _ => exact bare.elim
        | _ => exact bare.elim
    | _ => exact enters.elim
  · rintro ⟨thread, request, handle, resume, rfl, found, live, owned⟩
    refine ⟨.waitRequest request, .ucpRequestCheckStatus handle, resume, found, ?_, live⟩
    exact Or.inr (Or.inl (congrArg some owned))

/-- In every interleaving of any number of threads, whether or not the mutex is
poisoned, the calls that name the worker, its requests or its addresses are made
one at a time by the holder of the mutex, exactly if no step takes a thread that
runs `wait_request` into the status check of a request of the worker. -/
theorem worker_calls_serialised_iff (mt : MtWorker) (allocations : Allocations)
    (poisoned : Bool) (run : List (Label Answer Method)) :
    EveryStep (step (Method.body mt))
        (fun _ _ after => after.Serialised (Names allocations mt.worker))
        (World.initial poisoned) run ↔
      EveryStep (step (Method.body mt))
        (fun before label _ => ¬ ChecksUnlocked allocations mt.worker before label)
        (World.initial poisoned) run := by
  refine (serialised_iff (fun method => guarded_body mt method) poisoned run).trans ?_
  refine TransitionRuns.everyStep_congr (fun {before label _} _ => ?_) _ run
  exact not_congr (entersBare_iff_checksUnlocked allocations mt.worker before label)

def sharedWorker : MtWorker :=
  ⟨⟨⟨0x1000⟩, ⟨0⟩⟩⟩

def pendingRequest : NonNull :=
  ⟨0x2000, by decide⟩

/-- One thread is inside a progress call when another one waits for a request of
the same worker. -/
def twoThreads : List (Label Answer Method) :=
  [.start 0 .progress, .acquire 0, .enter 0,
    .start 1 (.waitRequest ⟨some pendingRequest⟩), .enter 1]

/-- After these steps two threads are inside calls for one worker, the second
one without the mutex. -/
theorem wait_request_checks_beside_progress :
    ∃ world, runFrom (step (Method.body sharedWorker)) (World.initial false) twoThreads =
        some world ∧
      world.InsideCall 0 (.ucpWorkerProgress sharedWorker.worker.handle) ∧
      world.InsideCall 1 (.ucpRequestCheckStatus pendingRequest) ∧
      world.holder = some 0 ∧
      ¬ world.Serialised
        (Names ⟨fun _ => sharedWorker.worker.handle, fun _ => sharedWorker.worker.handle⟩
          sharedWorker.worker) := by
  refine ⟨_, rfl, ⟨.progress, _, rfl⟩, ⟨.waitRequest ⟨some pendingRequest⟩, _, rfl⟩, rfl, ?_⟩
  intro serialised
  have same := serialised.exclusive 0 1 _ _ ⟨.progress, _, rfl⟩ (Or.inl rfl)
    ⟨.waitRequest ⟨some pendingRequest⟩, _, rfl⟩ (Or.inr (Or.inl rfl))
  cases same

end WorkerSerialisation

end UcxRs
