import UcxRs.MutexWaits
import UcxRs.ThreadCompletion
import UcxRs.WorkerSerialisation

/-!
# How `MtWorker` can deadlock

Every method of `MtWorker` locks the mutex, makes its calls and unlocks it again.  So as
long as UCX comes back from its calls and the operations of `with_worker` end, the threads
that share the clones finish their methods, in any interleaving, and a panic of an
operation does not change that.

An operation that calls a method of the same `MtWorker` locks the mutex that its own thread
holds.  Its documentation forbids that, and where operations take no other lock it is the
only way to deadlock: the thread never goes on, and the mutex stays with it.

One call is made to not come back: `ucp_worker_wait` blocks until an event, and
`ucp_worker_signal` is the event that another thread can cause.  `MtWorker::wait` blocks
with the mutex held, and `MtWorker::signal` has to lock it first, so a signal for the
blocked thread never gets through.
-/

namespace UcxRs

namespace WorkerCompletion

open Interaction (Program)
open LockedThreads
open TransitionRuns (EveryStep Reachable runFrom)
open UnwindingMutex (Completion)
open WorkerSerialisation (Method Unlocked guarded_body)

/-- UCX can come back from every call of the method.  That leaves out the operations
of `with_worker` that abort the process. -/
def Returns (mt : MtWorker) : Method → Prop
  | .withWorker operation =>
      (operation mt.worker).EveryCall fun call => Nonempty (Answer call)
  | _ => True

abbrev ReturningMethod (mt : MtWorker) : Type :=
  { method : Method // Returns mt method }

def body (mt : MtWorker) (method : ReturningMethod mt) : Code Answer Unit :=
  method.val.body mt

section Bodies

variable {Result : Type}

theorem answerable_discard {code : Code Answer Result} (answerable : Answerable code) :
    Answerable (code >>= fun _ => pure ()) :=
  Program.EveryCall.bind answerable fun _ => trivial

theorem answerable_holdingLock (mt : MtWorker) {operation : Worker → Ffi Result}
    (every : (operation mt.worker).EveryCall fun call => Nonempty (Answer call)) :
    Answerable (mt.holdingLock operation) :=
  answerable_locked every

theorem progress_returns (worker : Worker) :
    worker.progress.EveryCall fun call => Nonempty (Answer call) :=
  ⟨⟨(0 : Nat)⟩, fun _ => trivial⟩

theorem checkFinished_returns (request : Request) :
    request.checkFinished.EveryCall fun call => Nonempty (Answer call) := by
  obtain ⟨_ | handle⟩ := request
  · trivial
  · rw [Request.checkFinished_some]
    exact ⟨⟨UcsStatus.ok⟩, fun _ => trivial⟩

theorem cancelRequest_returns (worker : Worker) (request : Request) :
    (worker.cancelRequest request).EveryCall fun call => Nonempty (Answer call) := by
  obtain ⟨_ | handle⟩ := request
  · trivial
  · exact ⟨⟨()⟩, fun _ => trivial⟩

theorem answerable_waitRequest (mt : MtWorker) (request : Request) :
    Answerable (mt.waitRequest request) := by
  refine Program.EveryCall.forRounds ?_ ?_ _
  swap
  · trivial
  refine (Code.everyCall_lift (checkFinished_returns request)).bind fun finished => ?_
  rcases finished with error | _ | _
  · trivial
  · exact (answerable_holdingLock mt (progress_returns mt.worker)).bind fun _ => trivial
  · trivial

theorem answerable_packAddress (mt : MtWorker) : Answerable mt.packAddress := by
  refine answerable_holdingLock mt ⟨⟨(UcsStatus.ok, ⟨0⟩, [])⟩, ?_⟩
  rintro ⟨status, address, bytes⟩
  dsimp only [Program.andThen]
  cases statusToResult status with
  | error error => trivial
  | ok success => exact ⟨⟨()⟩, fun _ => trivial⟩

theorem answerable_body (mt : MtWorker) (method : ReturningMethod mt) :
    Answerable (body mt method) := by
  obtain ⟨method, returns⟩ := method
  cases method with
  | progress => exact answerable_discard (answerable_holdingLock mt (progress_returns _))
  | flush params =>
      exact answerable_discard (answerable_holdingLock mt ⟨⟨(0 : Word)⟩, fun _ => trivial⟩)
  | getEfd =>
      exact answerable_discard
        (answerable_holdingLock mt ⟨⟨(UcsStatus.ok, 0)⟩, fun _ => trivial⟩)
  | cancelRequest request =>
      exact answerable_discard (answerable_holdingLock mt (cancelRequest_returns _ request))
  | waitRequest request => exact answerable_discard (answerable_waitRequest mt request)
  | createEp epParams =>
      exact answerable_discard
        (answerable_holdingLock mt ⟨⟨(UcsStatus.ok, ⟨0⟩)⟩, fun _ => trivial⟩)
  | packAddress => exact answerable_discard (answerable_packAddress mt)
  | withWorker operation => exact answerable_discard (answerable_lockedUnwinding returns)
  | fence | wait | arm | signal =>
      exact answerable_discard
        (answerable_holdingLock mt ⟨⟨UcsStatus.ok⟩, fun _ => trivial⟩)

theorem balanced_body (mt : MtWorker) (method : ReturningMethod mt) :
    Balanced false (body mt method) :=
  balanced_of_guarded (@guarded_body (fun _ => False) mt method.val)

end Bodies

/-- An operation of `with_worker` that ends.  It calls UCX and methods of the same
`MtWorker`, which lock and unlock in turn, and waits for nothing else: with another lock,
such as that of a second `MtWorker`, two operations could wait for each other. -/
structure Operation where
  code : Code Answer (Completion Unit)
  balanced : Balanced false code
  returns : Answerable code

/-- What a thread does with a clone: it calls a method, or `with_worker` with an operation
that may use the same `MtWorker`. -/
inductive Activity (mt : MtWorker) where
  | method (method : ReturningMethod mt)
  | withWorker (operation : Worker → Operation)

def Activity.body (mt : MtWorker) : Activity mt → Code Answer Unit
  | .method returning => WorkerCompletion.body mt returning
  | .withWorker operation => Code.lockedAround (operation mt.worker).code >>= fun _ => pure ()

theorem unlocksOwn_activity (mt : MtWorker) (activity : Activity mt) :
    UnlocksOwn false (activity.body mt) := by
  cases activity with
  | method method => exact unlocksOwn_of_balanced (balanced_body mt method)
  | withWorker operation =>
      intro unheld poisoned
      change UnlocksOwn true (((operation mt.worker).code >>= fun completion =>
        Program.issue (Action.unlock completion.isPanic) fun _ => Program.done completion) >>=
          fun _ => pure ())
      rw [bind_assoc]
      exact UnlocksOwn.bind_of_balanced (operation mt.worker).balanced fun _ => ⟨rfl, rfl⟩

theorem answerable_activity (mt : MtWorker) (activity : Activity mt) :
    Answerable (activity.body mt) := by
  cases activity with
  | method method => exact answerable_body mt method
  | withWorker operation =>
      refine answerable_discard ⟨⟨false⟩, fun poisoned => ?_⟩
      change Answerable ((operation mt.worker).code >>= fun completion =>
        Program.issue (Action.unlock completion.isPanic) fun _ => Program.done completion)
      refine Program.EveryCall.bind (operation mt.worker).returns fun completion => ?_
      exact ⟨⟨()⟩, fun _ => trivial⟩

/-- In every interleaving, whether or not the mutex is poisoned: as long as a thread is in a
method some thread can go on, unless an operation of `with_worker` has come to lock the
mutex that its thread holds.  A thread that has done so stays there with the mutex, for
ever; without such operations the methods that were started can always go on.  And a run
without end starts methods again and again. -/
theorem mtWorker_methods_finish (mt : MtWorker) (poisoned : Bool) :
    (∀ world, Reachable (step (Activity.body mt)) (World.initial poisoned) world →
      (∀ thread, world.threads thread ≠ .idle →
        world.CanContinue (Activity.body mt) ∨ ∃ holder, world.Relocks holder) ∧
      ∀ thread, world.Relocks thread → ∀ run,
        EveryStep (step (Activity.body mt)) (fun _ _ after => after.Relocks thread) world run) ∧
    (∀ world, Reachable (step (body mt)) (World.initial poisoned) world →
      ∀ thread, world.threads thread ≠ .idle → world.CanContinue (body mt)) ∧
    ∀ (worlds : Nat → World Answer (Activity mt)) (labels : Nat → Label Answer (Activity mt)),
      worlds 0 = World.initial poisoned →
      (∀ index,
        step (Activity.body mt) (worlds index) (labels index) = some (worlds (index + 1))) →
        ∀ time, ∃ later, time ≤ later ∧ (labels later).isStart = true := by
  refine ⟨fun world reached => ⟨fun thread busy => ?_, fun thread relocks run => ?_⟩, ?_, ?_⟩
  · exact canContinue_or_relocks_of_reachable (unlocksOwn_activity mt)
      (answerable_activity mt) reached busy
  · exact relocks_for_ever (unlocksOwn_activity mt) reached relocks run
  · intro world reached thread busy
    exact canContinue_of_reachable (balanced_body mt) (answerable_body mt) reached busy
  · intro worlds labels begins steps time
    exact starts_again begins steps time

/-- The operation that the documentation of `with_worker` forbids: it makes progress through
the `MtWorker` itself. -/
def reentering (mt : MtWorker) : Operation where
  code := mt.progress >>= fun _ => pure (.returned ())
  balanced := by
    refine Code.Guarded.bind ?_ fun _ => rfl
    exact WorkerSerialisation.guarded_holdingLock mt Worker.progress fun _ => id
  returns := Program.EveryCall.bind (answerable_holdingLock mt (progress_returns mt.worker))
    fun _ => trivial

def reentry : List (Label Answer (Activity WorkerSerialisation.sharedWorker)) :=
  [.start 0 (.withWorker fun _ => reentering WorkerSerialisation.sharedWorker), .acquire 0]

/-- It never returns, and nobody gets the mutex any more. -/
theorem reentering_deadlocks :
    ∃ world, runFrom (step (Activity.body WorkerSerialisation.sharedWorker))
        (World.initial false) reentry = some world ∧
      ∀ run, EveryStep (step (Activity.body WorkerSerialisation.sharedWorker))
        (fun _ _ after => after.Relocks 0) world run := by
  refine ⟨_, rfl, ?_⟩
  refine ((mtWorker_methods_finish WorkerSerialisation.sharedWorker false).1 _
    ⟨reentry, rfl⟩).2 0 ?_
  exact ⟨rfl, _, _, rfl⟩

/-- The wait for an event of a worker, and the signal that ends it. -/
def waitAndSignal (worker : Worker) : Signalling Call where
  waits call := decide (call = .ucpWorkerWait worker.handle)
  signals call := decide (call = .ucpWorkerSignal worker.handle)

/-- Neither call is the status check that `wait_request` makes bare. -/
theorem guarded_waitAndSignal (mt : MtWorker) (method : Method) :
    Code.Guarded (waitAndSignal mt.worker).Concerns (fun _ => False) false false
      (method.body mt) := by
  refine (guarded_body mt method).of_bare fun call concerns => iff_of_false ?_ id
  intro unlocked
  cases method with
  | waitRequest request =>
      cases call with
      | ucpRequestCheckStatus handle => simp [Signalling.Concerns, waitAndSignal] at concerns
      | _ => exact unlocked
  | _ => exact unlocked

/-- Where a `ucp_worker_wait` ends by a `ucp_worker_signal` that is entered while it lasts:
no step of any run takes a thread out of a wait for the shared worker, and the mutex stays
with that thread.  A signal sent before the wait was entered is not counted, though the
event descriptor of UCX would remember it. -/
theorem signal_never_ends_wait (mt : MtWorker) (poisoned : Bool)
    (run : List (Label Answer Method)) :
    EveryStep ((waitAndSignal mt.worker).step (Method.body mt))
      (fun before _ after => ∀ thread,
        before.world.InsideCall thread (.ucpWorkerWait mt.worker.handle) →
          after.world.InsideCall thread (.ucpWorkerWait mt.worker.handle) ∧
            after.world.holder = some thread)
      (Signalling.initial poisoned) run := by
  refine (Signalling.never_woken (guarded_waitAndSignal mt) poisoned run).mono ?_
  intro before label after stays thread inside
  exact stays thread _ inside (decide_eq_true rfl)

end WorkerCompletion

end UcxRs
