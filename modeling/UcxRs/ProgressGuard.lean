import UcxRs.AtomicFlags
import UcxRs.Request
import UcxRs.TransitionRuns
import UcxRs.UnwindingMutex

/-!
# The debug guard of progress

In a debug build, `Worker::progress` takes the flag `progressing` of its worker
before it calls UCX and gives it back by dropping a guard, whether UCX returns or
unwinds.  A caller that finds the flag taken panics before its guard exists.
Callers here are threads, or callbacks that call `progress` again; the operations
on the flag are atomic, and callers interleave between any two of them.
-/

namespace UcxRs

namespace ProgressGuard

open AtomicFlags (Tracks compareExchange)
open Interaction (Program)
open TransitionRuns (EveryStep everyStep_of_invariant_before runFrom runFrom_cons)
open UnwindingMutex (Completion)

/-- What a caller of `progress` does. -/
inductive Action where
  | compareExchange (current new : Bool)
  | ucpWorkerProgress (worker : WorkerHandle)
  | store (value : Bool)

abbrev Reply : Action → Type
  | .compareExchange _ _ => Except Bool Bool
  | .ucpWorkerProgress _ => Completion Nat
  | .store _ => Unit

abbrev Code (Result : Type) := Program Action Reply Result

/-- `ProgressGuard::new`; the panic is `concurrent progress() on the same worker`. -/
def new : Code (Completion Unit) := do
  let exchanged : Except Bool Bool ← Program.call (Action.compareExchange false true)
  match exchanged with
  | .error _ => pure .panicked
  | .ok _ => pure (.returned ())

/-- `Drop for ProgressGuard`. -/
def drop : Code Unit :=
  Program.call (Action.store false)

/-- The value of `progress`, or the panic that passes through it. -/
def progressed : Completion Nat → Completion Bool
  | .returned progress => .returned (decide (progress > 0))
  | .panicked => .panicked

end ProgressGuard

open ProgressGuard Interaction in
/-- `Worker::progress` of a debug build.  The guard, once constructed, is dropped
when UCX returns and when it unwinds. -/
def Worker.debugProgress (worker : Worker) : Code (UnwindingMutex.Completion Bool) := do
  match ← ProgressGuard.new with
  | .panicked => pure .panicked
  | .returned _ =>
      let completion ← Program.call (Action.ucpWorkerProgress worker.handle)
      ProgressGuard.drop
      pure (progressed completion)

namespace ProgressGuard

open AtomicFlags (Tracks compareExchange)
open Interaction (Program)
open TransitionRuns (EveryStep everyStep_of_invariant_before runFrom runFrom_cons)
open UnwindingMutex (Completion)

/-- Where a caller is: outside of `progress`, about to do the next action of its
code, or inside `ucp_worker_progress`. -/
inductive Caller where
  | outside
  | running (code : Code (Completion Bool))
  | inside (resume : Completion Nat → Code (Completion Bool))

/-- The flag of one worker and its callers, who are named by numbers. -/
structure World where
  progressing : Bool
  callers : Nat → Caller

/-- A caller calls `progress`, does its next action, comes back from UCX by
returning or by unwinding, or is done. -/
inductive Label where
  | call (caller : Nat)
  | act (caller : Nat)
  | comeBack (caller : Nat) (completion : Completion Nat)
  | leave (caller : Nat)

def Label.caller : Label → Nat
  | call caller => caller
  | act caller => caller
  | comeBack caller _ => caller
  | leave caller => caller

namespace World

def initial : World where
  progressing := false
  callers := fun _ => .outside

def move (world : World) (caller : Nat) (moved : Caller) : World :=
  { world with callers := Function.update world.callers caller moved }

/-- The caller moves and has the flag. -/
def hold (world : World) (caller : Nat) (moved : Caller) : World :=
  { world.move caller moved with progressing := true }

@[simp]
theorem hold_callers (world : World) (caller : Nat) (moved : Caller) :
    (world.hold caller moved).callers caller = moved := by
  unfold hold move
  exact Function.update_self ..

@[simp]
theorem hold_move (world : World) (caller : Nat) (moved next : Caller) :
    (world.hold caller moved).move caller next = world.hold caller next :=
  congrArg (World.mk true) (Function.update_idem ..)

end World

def step (worker : Worker) (world : World) : Label → Option World
  | .call caller =>
      match world.callers caller with
      | .outside => some (world.move caller (.running worker.debugProgress))
      | _ => none
  | .act caller =>
      match world.callers caller with
      | .running (.issue (.compareExchange current new) resume) =>
          let (result, progressing) := compareExchange world.progressing current new
          some { world.move caller (.running (resume result)) with progressing := progressing }
      | .running (.issue (.ucpWorkerProgress _) resume) =>
          some (world.move caller (.inside resume))
      | .running (.issue (.store value) resume) =>
          some { world.move caller (.running (resume ())) with progressing := value }
      | _ => none
  | .comeBack caller completion =>
      match world.callers caller with
      | .inside resume => some (world.move caller (.running (resume completion)))
      | _ => none
  | .leave caller =>
      match world.callers caller with
      | .running (.done _) => some (world.move caller .outside)
      | _ => none

/-- The guard of a caller exists: its compare-and-exchange is behind it and its
store is not. -/
def Caller.Guarded : Caller → Prop
  | .inside _ => True
  | .running (.issue (.ucpWorkerProgress _) _) => True
  | .running (.issue (.store _) _) => True
  | _ => False

namespace World

/-- The caller is inside `ucp_worker_progress`. -/
def InsideUcx (world : World) (caller : Nat) : Prop :=
  ∃ resume, world.callers caller = .inside resume

/-- The caller is inside `progress`, from its entry to its release of the flag. -/
def Inside (world : World) (caller : Nat) : Prop :=
  (world.callers caller).Guarded

/-- The caller's next action is the compare-and-exchange of its entry. -/
def Enters (world : World) (caller : Nat) : Prop :=
  ∃ current new resume,
    world.callers caller = .running (.issue (.compareExchange current new) resume)

end World

/-- A call of `progress` up to its result, while no other caller moves. -/
def soloCall (caller : Nat) (completion : Completion Nat) : List Label :=
  [.call caller, .act caller, .act caller, .comeBack caller completion, .act caller]

/-- What the guard does at a step and in the state after it. -/
structure Detects (worker : Worker) (world : World) (label : Label) (next : World) : Prop where
  atMostOne : ∀ first second, next.InsideUcx first → next.InsideUcx second → first = second
  overlapPanics : ∀ caller other, label = .act caller → world.Enters caller →
    world.Inside other → next = world.move caller (.running (.done .panicked))
  aloneEnters : ∀ caller, label = .act caller → world.Enters caller →
    (∀ other, ¬ world.Inside other) → next.Inside caller
  clearedByOwner : world.progressing = true → next.progressing = false →
    world.Inside label.caller
  exact : next.progressing = false ↔ ∀ caller, ¬ next.Inside caller
  laterSucceeds : (∀ other, ¬ next.Inside other) → ∀ caller completion,
    next.callers caller = .outside →
      runFrom (step worker) next (soloCall caller completion) =
        some (next.move caller (.running (.done (progressed completion))))

/-- What follows `ucp_worker_progress`. -/
def dropGuard (completion : Completion Nat) : Code (Completion Bool) :=
  .issue (.store false) fun _ => .done (progressed completion)

/-- What follows a successful entry. -/
def callUcx (worker : Worker) : Code (Completion Bool) :=
  .issue (.ucpWorkerProgress worker.handle) dropGuard

/-- What follows the compare-and-exchange. -/
def entered (worker : Worker) : Except Bool Bool → Code (Completion Bool)
  | .error _ => .done .panicked
  | .ok _ => callUcx worker

theorem debugProgress_eq (worker : Worker) :
    worker.debugProgress = .issue (.compareExchange false true) (entered worker) := by
  refine congrArg (Program.issue _) (funext fun exchanged : Except Bool Bool => ?_)
  cases exchanged <;> rfl

/-- The places where a caller can be. -/
inductive Staged (worker : Worker) : Caller → Prop where
  | outside : Staged worker .outside
  | entering : Staged worker (.running (.issue (.compareExchange false true) (entered worker)))
  | guarded : Staged worker (.running (callUcx worker))
  | inside : Staged worker (.inside dropGuard)
  | leaving (completion : Completion Nat) : Staged worker (.running (dropGuard completion))
  | finished (completion : Completion Bool) : Staged worker (.running (.done completion))

/-- The steps of callers at their stages. -/
inductive Moves (worker : Worker) (world : World) : Label → World → Prop where
  | call {caller : Nat} (found : world.callers caller = .outside) :
      Moves worker world (.call caller)
        (world.move caller (.running (.issue (.compareExchange false true) (entered worker))))
  | enter {caller : Nat} (free : world.progressing = false)
      (found : world.callers caller =
        .running (.issue (.compareExchange false true) (entered worker))) :
      Moves worker world (.act caller)
        (world.hold caller (.running (callUcx worker)))
  | overlap {caller : Nat} (taken : world.progressing = true)
      (found : world.callers caller =
        .running (.issue (.compareExchange false true) (entered worker))) :
      Moves worker world (.act caller) (world.move caller (.running (.done .panicked)))
  | callUcx {caller : Nat} (found : world.callers caller = .running (callUcx worker)) :
      Moves worker world (.act caller) (world.move caller (.inside dropGuard))
  | comeBack {caller : Nat} (completion : Completion Nat)
      (found : world.callers caller = .inside dropGuard) :
      Moves worker world (.comeBack caller completion)
        (world.move caller (.running (dropGuard completion)))
  | release {caller : Nat} {completion : Completion Nat}
      (found : world.callers caller = .running (dropGuard completion)) :
      Moves worker world (.act caller)
        { world.move caller (.running (.done (progressed completion))) with
          progressing := false }
  | leave {caller : Nat} {completion : Completion Bool}
      (found : world.callers caller = .running (.done completion)) :
      Moves worker world (.leave caller) (world.move caller .outside)

theorem moves_of_step {worker : Worker} {world next : World} {label : Label}
    (staged : Staged worker (world.callers label.caller))
    (stepEq : step worker world label = some next) : Moves worker world label next := by
  cases label with
  | call caller =>
      change Staged worker (world.callers caller) at staged
      simp only [step] at stepEq
      generalize found : world.callers caller = stage at staged stepEq
      cases staged with
      | outside =>
          rw [debugProgress_eq] at stepEq
          cases stepEq
          exact .call found
      | _ => cases stepEq
  | act caller =>
      change Staged worker (world.callers caller) at staged
      simp only [step] at stepEq
      generalize found : world.callers caller = stage at staged stepEq
      cases staged with
      | entering =>
          cases progressing : world.progressing with
          | false =>
              rw [progressing] at stepEq
              cases stepEq
              exact .enter progressing found
          | true =>
              have kept : World.mk true (Function.update world.callers caller
                  (.running (.done .panicked))) = world.move caller (.running (.done .panicked)) :=
                congrArg (fun flag => World.mk flag _) progressing.symm
              have moved := Moves.overlap progressing found
              rw [← kept] at moved
              rw [progressing] at stepEq
              cases stepEq
              exact moved
      | guarded =>
          cases stepEq
          exact .callUcx found
      | leaving completion =>
          cases stepEq
          exact .release found
      | _ => cases stepEq
  | comeBack caller completion =>
      change Staged worker (world.callers caller) at staged
      simp only [step] at stepEq
      generalize found : world.callers caller = stage at staged stepEq
      cases staged with
      | inside =>
          cases stepEq
          exact .comeBack completion found
      | _ => cases stepEq
  | leave caller =>
      change Staged worker (world.callers caller) at staged
      simp only [step] at stepEq
      generalize found : world.callers caller = stage at staged stepEq
      cases staged with
      | finished completion =>
          cases stepEq
          exact .leave found
      | _ => cases stepEq

/-- Every caller is at a stage, and the flag says whether one is inside. -/
structure Sound (worker : Worker) (world : World) : Prop where
  staged : ∀ caller, Staged worker (world.callers caller)
  tracks : Tracks Caller.Guarded world.progressing world.callers

namespace Sound

variable {worker : Worker} {world next : World} {label : Label}

theorem initial : Sound worker World.initial :=
  ⟨fun _ => .outside, Tracks.initial fun guarded => guarded⟩

theorem staged_move (sound : Sound worker world) {caller : Nat} {moved : Caller}
    (stage : Staged worker moved) :
    ∀ other, Staged worker (Function.update world.callers caller moved other) := by
  intro other
  by_cases here : other = caller
  · subst here
    rw [Function.update_self]
    exact stage
  · rw [Function.update_of_ne here]
    exact sound.staged other

/-- A step that neither takes nor gives back the flag. -/
theorem move (sound : Sound worker world) {caller : Nat} {stage moved : Caller}
    (found : world.callers caller = stage) (staged : Staged worker moved)
    (same : moved.Guarded ↔ stage.Guarded) : Sound worker (world.move caller moved) := by
  refine ⟨sound.staged_move staged, sound.tracks.keep ?_⟩
  rw [found]
  exact same

theorem of_moves (sound : Sound worker world) (moves : Moves worker world label next) :
    Sound worker next := by
  cases moves with
  | call found => exact sound.move found .entering Iff.rfl
  | enter free found =>
      have tracks := sound.tracks
      rw [free] at tracks
      exact ⟨sound.staged_move .guarded, tracks.acquire trivial⟩
  | overlap taken found => exact sound.move found (.finished .panicked) Iff.rfl
  | callUcx found => exact sound.move found .inside Iff.rfl
  | comeBack completion found => exact sound.move found (.leaving completion) Iff.rfl
  | release found =>
      refine ⟨sound.staged_move (.finished _), sound.tracks.release ?_ fun guarded => guarded⟩
      rw [found]
      trivial
  | leave found => exact sound.move found .outside Iff.rfl

theorem step (sound : Sound worker world) (stepEq : step worker world label = some next) :
    Sound worker next :=
  sound.of_moves (moves_of_step (sound.staged label.caller) stepEq)

/-- The flag is free exactly when nobody is inside. -/
theorem free_iff (sound : Sound worker world) :
    world.progressing = false ↔ ∀ caller, ¬ world.Inside caller :=
  sound.tracks.free_iff

theorem atMostOne (sound : Sound worker world) {first second : Nat}
    (insideFirst : world.InsideUcx first) (insideSecond : world.InsideUcx second) :
    first = second := by
  obtain ⟨resume, foundFirst⟩ := insideFirst
  obtain ⟨otherResume, foundSecond⟩ := insideSecond
  apply sound.tracks.exclusive
  · rw [foundFirst]
    trivial
  · rw [foundSecond]
    trivial

/-- An entry while a caller is inside. -/
theorem overlapPanics (sound : Sound worker world) {caller other : Nat}
    (moves : Moves worker world (.act caller) next) (enters : world.Enters caller)
    (inside : world.Inside other) :
    next = world.move caller (.running (.done .panicked)) := by
  obtain ⟨current, new, resume, entering⟩ := enters
  cases moves with
  | enter free found => exact absurd inside (sound.free_iff.mp free other)
  | overlap taken found => rfl
  | callUcx found => cases entering.symm.trans found
  | release found => cases entering.symm.trans found

/-- An entry while nobody is inside. -/
theorem aloneEnters (sound : Sound worker world) {caller : Nat}
    (moves : Moves worker world (.act caller) next) (enters : world.Enters caller)
    (nobody : ∀ other, ¬ world.Inside other) : next.Inside caller := by
  obtain ⟨current, new, resume, entering⟩ := enters
  cases moves with
  | enter free found =>
      change Caller.Guarded (Function.update world.callers caller _ caller)
      rw [Function.update_self]
      trivial
  | overlap taken found => cases taken.symm.trans (sound.free_iff.mpr nobody)
  | callUcx found => cases entering.symm.trans found
  | release found => cases entering.symm.trans found

/-- Only a caller that is inside gives the flag back. -/
theorem clearedByOwner (moves : Moves worker world label next)
    (before : world.progressing = true) (after : next.progressing = false) :
    world.Inside label.caller := by
  cases moves with
  | @release caller _ found =>
      change (world.callers caller).Guarded
      rw [found]
      trivial
  | enter free found => cases after
  | _ => cases before.symm.trans after

end Sound

/-- A call that overlaps with no other returns what UCX returns. -/
theorem runFrom_soloCall (worker : Worker) {world : World} {caller : Nat}
    (free : world.progressing = false) (outside : world.callers caller = .outside)
    (completion : Completion Nat) :
    runFrom (step worker) world (soloCall caller completion) =
      some (world.move caller (.running (.done (progressed completion)))) := by
  have calls : step worker world (.call caller) =
      some (world.move caller (.running worker.debugProgress)) := by
    simp only [step, outside]
  have enters : step worker (world.move caller (.running worker.debugProgress)) (.act caller) =
      some (world.hold caller (.running (callUcx worker))) := by
    simp [step, debugProgress_eq, compareExchange, free, entered, World.hold, World.move]
  have asksUcx : step worker (world.hold caller (.running (callUcx worker))) (.act caller) =
      some (world.hold caller (.inside dropGuard)) := by
    simp [step, callUcx]
  have comesBack : step worker (world.hold caller (.inside dropGuard))
      (.comeBack caller completion) =
        some (world.hold caller (.running (dropGuard completion))) := by
    simp [step]
  have releases : step worker (world.hold caller (.running (dropGuard completion)))
      (.act caller) =
        some (world.move caller (.running (.done (progressed completion)))) := by
    simp [step, dropGuard, World.hold, World.move, free]
  unfold soloCall
  simp only [runFrom_cons, calls, enters, asksUcx, comesBack, releases, Option.bind_some]
  rfl

/-- In every run the guard detects every overlap and keeps its flag. -/
theorem guard_detects_overlaps (worker : Worker) (run : List Label) :
    EveryStep (step worker) (Detects worker) World.initial run := by
  refine everyStep_of_invariant_before Sound.step ?_ Sound.initial run
  intro world label next sound stepEq
  have moves := moves_of_step (sound.staged label.caller) stepEq
  have after := sound.step stepEq
  constructor
  case atMostOne => exact fun first second => after.atMostOne
  case overlapPanics =>
    rintro caller other rfl enters inside
    exact sound.overlapPanics moves enters inside
  case aloneEnters =>
    rintro caller rfl enters nobody
    exact sound.aloneEnters moves enters nobody
  case clearedByOwner => exact Sound.clearedByOwner moves
  case exact => exact after.free_iff
  case laterSucceeds =>
    intro nobody caller completion outside
    exact runFrom_soloCall worker (after.free_iff.mpr nobody) outside completion

/-- The second caller enters while the first is inside UCX, and leaves; then UCX
unwinds through the first. -/
example (worker : Worker) :
    let overlap : List Label := [.call 0, .act 0, .act 0, .call 1, .act 1, .leave 1]
    (runFrom (step worker) World.initial overlap).map World.progressing = some true ∧
      (runFrom (step worker) World.initial
        (overlap ++ [.comeBack 0 .panicked, .act 0])).map World.progressing = some false :=
  ⟨rfl, rfl⟩

end ProgressGuard

end UcxRs
