import UcxRs.InteractionProgram
import UcxRs.TransitionRuns
import UcxRs.UnwindingMutex
import Mathlib.Logic.Function.Basic

/-!
# Threads that share a library behind one mutex

A thread runs methods, one after the other.  The code of a method is a program
that locks and unlocks one mutex and calls a foreign library; a call takes
time, so other threads move while a thread is inside it.  The scheduler, the
library's answers and the methods that are started are part of the labels of a
run.

Some calls need the mutex.  `Guarded` reads off the code of a method that it
makes them with the mutex held, except for the calls that are declared bare;
the file ends with the resulting law: the calls that need the mutex are made
one at a time and by its holder, as long as no thread enters one of them bare.
-/

namespace LockedThreads

open Interaction
open UnwindingMutex (Completion)

/-- What a thread does: it locks or unlocks the mutex, or calls the library. -/
inductive Action (Call : Type) where
  | lock
  | unlock (unwinding : Bool)
  | call (request : Call)

/-- Locking reports whether the mutex is poisoned. -/
abbrev Reply {Call : Type} (Answer : Call → Type) : Action Call → Type
  | .lock => Bool
  | .unlock _ => Unit
  | .call request => Answer request

/-- Code of a thread. -/
abbrev Code {Call : Type} (Answer : Call → Type) (Result : Type) :=
  Program (Action Call) (Reply Answer) Result

namespace Code

variable {Call : Type} {Answer : Call → Type} {Result Value : Type}

/-- A program of calls, with the mutex left alone. -/
def lift : Program Call Answer Result → Code Answer Result
  | .done result => .done result
  | .issue request resume => .issue (.call request) fun answer => lift (resume answer)

/-- The calls of some code that runs alone and never finds the mutex
poisoned. -/
def erase : Code Answer Result → Program Call Answer Result
  | .done result => .done result
  | .issue .lock resume => erase (resume false)
  | .issue (.unlock _) resume => erase (resume ())
  | .issue (.call request) resume => .issue request fun answer => erase (resume answer)

@[simp]
theorem erase_lift (program : Program Call Answer Result) :
    (lift program).erase = program := by
  induction program with
  | done result => rfl
  | issue request resume ih => exact congrArg (Program.issue request) (funext ih)

@[simp]
theorem erase_bind (code : Code Answer Result) (next : Result → Code Answer Value) :
    (code >>= next).erase = code.erase >>= fun result => (next result).erase := by
  induction code with
  | done result => rfl
  | issue action resume ih =>
      cases action with
      | lock => exact ih false
      | unlock unwinding => exact ih ()
      | call request => exact congrArg (Program.issue request) (funext ih)

theorem erase_forRounds (round : Code Answer (Option Result)) (after : Code Answer Result)
    (rounds : Nat) :
    erase (Program.forRounds round after rounds) =
      Program.forRounds (erase round) (erase after) rounds := by
  induction rounds with
  | zero => rfl
  | succ rounds ih =>
      rw [Program.forRounds, Program.forRounds, erase_bind]
      refine congrArg _ (funext fun outcome => ?_)
      cases outcome with
      | none => exact ih
      | some result => rfl

/-- Lock the mutex, run a program of calls and drop the guard.  A poisoned
mutex is locked like any other. -/
def locked (program : Program Call Answer Result) : Code Answer Result := do
  let _poisoned ← Program.call Action.lock
  let result ← lift program
  Program.call (Action.unlock false)
  pure result

/-- The same for a program that may panic: the guard is dropped while the thread
unwinds. -/
def lockedUnwinding (program : Program Call Answer (Completion Result)) :
    Code Answer (Completion Result) := do
  let _poisoned ← Program.call Action.lock
  let completion ← lift program
  Program.call (Action.unlock completion.isPanic)
  pure completion

/-- The same for code that may itself lock the mutex. -/
def lockedAround (code : Code Answer (Completion Result)) : Code Answer (Completion Result) := do
  let _poisoned ← Program.call Action.lock
  let completion ← code
  Program.call (Action.unlock completion.isPanic)
  pure completion

@[simp]
theorem erase_locked (program : Program Call Answer Result) :
    (locked program).erase = program := by
  change ((lift program >>= fun result => _) : Code Answer Result).erase = program
  rw [erase_bind, erase_lift]
  exact bind_pure program

/-- Code that starts and ends with the mutex as given, and makes a call that
needs it exactly if it holds it or the call is bare. -/
def Guarded (needs bare : Call → Prop) : Bool → Bool → Code Answer Result → Prop
  | held, final, .done _ => held = final
  | held, final, .issue .lock resume =>
      held = false ∧ ∀ poisoned, Guarded needs bare true final (resume poisoned)
  | held, final, .issue (.unlock _) resume =>
      held = true ∧ Guarded needs bare false final (resume ())
  | held, final, .issue (.call request) resume =>
      (needs request → (held = true ↔ ¬ bare request)) ∧
        ∀ answer, Guarded needs bare held final (resume answer)

variable {needs bare : Call → Prop} {held middle final : Bool}

theorem Guarded.bind {code : Code Answer Result} {next : Result → Code Answer Value}
    (first : Guarded needs bare held middle code)
    (second : ∀ result, Guarded needs bare middle final (next result)) :
    Guarded needs bare held final (code >>= next) := by
  induction code generalizing held with
  | done result =>
      obtain rfl : held = middle := first
      exact second result
  | issue action resume ih =>
      cases action with
      | lock => exact ⟨first.1, fun poisoned => ih poisoned (first.2 poisoned)⟩
      | unlock unwinding => exact ⟨first.1, ih () first.2⟩
      | call request => exact ⟨first.1, fun answer => ih answer (first.2 answer)⟩

theorem Guarded.forRounds {round : Code Answer (Option Result)} {after : Code Answer Result}
    (inRound : Guarded needs bare held held round)
    (afterwards : Guarded needs bare held held after) (rounds : Nat) :
    Guarded needs bare held held (Program.forRounds round after rounds) := by
  induction rounds with
  | zero => exact afterwards
  | succ rounds ih =>
      refine inRound.bind fun outcome => ?_
      cases outcome with
      | none => exact ih
      | some result => rfl

theorem guarded_lift {program : Program Call Answer Result}
    (every : program.EveryCall fun request =>
      needs request → (held = true ↔ ¬ bare request)) :
    Guarded needs bare held held (lift program) := by
  induction program with
  | done result => rfl
  | issue request resume ih => exact ⟨every.1, fun answer => ih answer (every.2 answer)⟩

/-- A program whose calls are not bare may be run under the mutex. -/
theorem guarded_locked {program : Program Call Answer Result}
    (every : program.EveryCall fun request => ¬ bare request) :
    Guarded needs bare false false (locked program) := by
  refine ⟨rfl, fun poisoned => ?_⟩
  change Guarded needs bare true false (lift program >>= fun result =>
    Program.issue (Action.unlock false) fun _ => Program.done result)
  refine Guarded.bind (guarded_lift ?_) fun _ => ⟨rfl, rfl⟩
  exact every.mono fun request notBare _ => iff_of_true rfl notBare

theorem guarded_lockedUnwinding {program : Program Call Answer (Completion Result)}
    (every : program.EveryCall fun request => ¬ bare request) :
    Guarded needs bare false false (lockedUnwinding program) := by
  refine ⟨rfl, fun poisoned => ?_⟩
  change Guarded needs bare true false (lift program >>= fun completion =>
    Program.issue (Action.unlock completion.isPanic) fun _ => Program.done completion)
  refine Guarded.bind (guarded_lift ?_) fun _ => ⟨rfl, rfl⟩
  exact every.mono fun request notBare _ => iff_of_true rfl notBare

end Code

section Threads

variable {Call Method : Type} (Answer : Call → Type)

/-- Where a thread is. -/
inductive Thread (Method : Type) where
  | idle
  | running (method : Method) (rest : Code Answer Unit)
  | inside (method : Method) (request : Call) (resume : Answer request → Code Answer Unit)

/-- The mutex and the threads; a thread is named by a number. -/
structure World (Method : Type) where
  holder : Option Nat
  poisoned : Bool
  threads : Nat → Thread Answer Method

/-- What happens next: a thread starts a method, takes the mutex, drops the
guard, enters a call, comes back from it with the library's answer, or finishes
its method. -/
inductive Label (Method : Type) where
  | start (thread : Nat) (method : Method)
  | acquire (thread : Nat)
  | release (thread : Nat)
  | enter (thread : Nat)
  | leave (thread : Nat) (answers : (request : Call) → Option (Answer request))
  | finish (thread : Nat)

end Threads

variable {Call Method : Type} {Answer : Call → Type}

namespace World

def move (world : World Answer Method) (thread : Nat) (moved : Thread Answer Method) :
    World Answer Method :=
  { world with threads := Function.update world.threads thread moved }

/-- No thread has started, and the mutex is free. -/
def initial (poisoned : Bool) : World Answer Method where
  holder := none
  poisoned := poisoned
  threads := fun _ => .idle

/-- The call that a thread is inside. -/
def InsideCall (world : World Answer Method) (thread : Nat) (request : Call) : Prop :=
  ∃ method resume, world.threads thread = .inside method request resume

/-- The calls that need the mutex are made one at a time, by the thread that
holds it. -/
structure Serialised (needs : Call → Prop) (world : World Answer Method) : Prop where
  held : ∀ thread request, world.InsideCall thread request → needs request →
    world.holder = some thread
  exclusive : ∀ first second firstRequest secondRequest,
    world.InsideCall first firstRequest → needs firstRequest →
    world.InsideCall second secondRequest → needs secondRequest → first = second

end World

/-- One step. -/
def step (body : Method → Code Answer Unit) (world : World Answer Method) :
    Label Answer Method → Option (World Answer Method)
  | .start thread method =>
      match world.threads thread with
      | .idle => some (world.move thread (.running method (body method)))
      | _ => none
  | .acquire thread =>
      match world.threads thread, world.holder with
      | .running method (.issue .lock resume), none =>
          some { world.move thread (.running method (resume world.poisoned)) with
            holder := some thread }
      | _, _ => none
  | .release thread =>
      match world.threads thread with
      | .running method (.issue (.unlock unwinding) resume) =>
          some { world.move thread (.running method (resume ())) with
            holder := none
            poisoned := world.poisoned || unwinding }
      | _ => none
  | .enter thread =>
      match world.threads thread with
      | .running method (.issue (.call request) resume) =>
          some (world.move thread (.inside method request resume))
      | _ => none
  | .leave thread answers =>
      match world.threads thread with
      | .inside method request resume =>
          (answers request).map fun answer =>
            world.move thread (.running method (resume answer))
      | _ => none
  | .finish thread =>
      match world.threads thread with
      | .running _ (.done _) => some (world.move thread .idle)
      | _ => none

/-- A step takes a thread into a bare call that needs the mutex. -/
def EntersBare (needs : Call → Prop) (bare : Method → Call → Prop)
    (world : World Answer Method) : Label Answer Method → Prop
  | .enter thread => ∃ method request resume,
      world.threads thread = .running method (.issue (.call request) resume) ∧
        needs request ∧ bare method request
  | _ => False

section Invariant

variable {needs : Call → Prop} {bare : Method → Call → Prop}
  {body : Method → Code Answer Unit} {world next : World Answer Method} {thread : Nat}

/-- What is left of a thread's method is guarded, seen from whether the thread
holds the mutex. -/
def Thread.Guarded (needs : Call → Prop) (bare : Method → Call → Prop) (held : Bool) :
    Thread Answer Method → Prop
  | .idle => held = false
  | .running method rest => Code.Guarded needs (bare method) held false rest
  | .inside method request resume =>
      (needs request → (held = true ↔ ¬ bare method request)) ∧
        ∀ answer, Code.Guarded needs (bare method) held false (resume answer)

namespace World

def holds (world : World Answer Method) (thread : Nat) : Bool :=
  decide (world.holder = some thread)

/-- Every thread is guarded. -/
def Guarded (needs : Call → Prop) (bare : Method → Call → Prop)
    (world : World Answer Method) : Prop :=
  ∀ thread, (world.threads thread).Guarded needs bare (world.holds thread)

/-- No thread is inside a bare call that needs the mutex. -/
def NoneBare (needs : Call → Prop) (bare : Method → Call → Prop)
    (world : World Answer Method) : Prop :=
  ∀ thread method request resume, world.threads thread = .inside method request resume →
    needs request → ¬ bare method request

@[simp]
theorem move_threads_self (moved : Thread Answer Method) :
    (world.move thread moved).threads thread = moved :=
  Function.update_self ..

theorem move_threads_of_ne {other : Nat} (different : other ≠ thread)
    (moved : Thread Answer Method) :
    (world.move thread moved).threads other = world.threads other :=
  Function.update_of_ne different ..

@[simp]
theorem holds_move (moved : Thread Answer Method) (other : Nat) :
    (world.move thread moved).holds other = world.holds other :=
  rfl

theorem guarded_initial (poisoned : Bool) :
    (initial poisoned : World Answer Method).Guarded needs bare :=
  fun _ => rfl

theorem noneBare_initial (poisoned : Bool) :
    (initial poisoned : World Answer Method).NoneBare needs bare := by
  intro thread method request resume inside
  cases inside

theorem noneBare_move (noneBare : world.NoneBare needs bare)
    {moved : Thread Answer Method}
    (here : ∀ method request resume, moved = .inside method request resume →
      needs request → ¬ bare method request) :
    (world.move thread moved).NoneBare needs bare :=
  (Function.forall_update_iff world.threads fun _ state => ∀ method request resume,
    state = .inside method request resume → needs request → ¬ bare method request).mpr
      ⟨here, fun other _ => noneBare other⟩

/-- Only the thread that moves and the holder of the mutex change. -/
theorem forall_threads_move {allowed : Bool → Thread Answer Method → Prop}
    (every : ∀ other, allowed (world.holds other) (world.threads other))
    {moved : Thread Answer Method} (here : allowed (next.holds thread) moved)
    (threads : next.threads = (world.move thread moved).threads)
    (others : ∀ other, other ≠ thread → next.holds other = world.holds other) (other : Nat) :
    allowed (next.holds other) (next.threads other) := by
  rw [threads]
  by_cases same : other = thread
  · subst same
    rw [move_threads_self]
    exact here
  · rw [move_threads_of_ne same, others other same]
    exact every other

theorem Guarded.move (guarded : world.Guarded needs bare) {moved : Thread Answer Method}
    (here : moved.Guarded needs bare (next.holds thread))
    (threads : next.threads = (world.move thread moved).threads)
    (others : ∀ other, other ≠ thread → next.holds other = world.holds other) :
    next.Guarded needs bare :=
  forall_threads_move guarded here threads others

/-- The serialisation law follows from the two invariants. -/
theorem Guarded.serialised (guarded : world.Guarded needs bare)
    (noneBare : world.NoneBare needs bare) : world.Serialised needs := by
  have held : ∀ thread request, world.InsideCall thread request → needs request →
      world.holder = some thread := by
    rintro thread request ⟨method, resume, inside⟩ needed
    have here := guarded thread
    rw [inside] at here
    exact of_decide_eq_true ((here.1 needed).mpr (noneBare thread method request resume
      inside needed))
  refine ⟨held, fun first second firstRequest secondRequest inFirst needsFirst inSecond
    needsSecond => ?_⟩
  have both := (held first firstRequest inFirst needsFirst).symm.trans
    (held second secondRequest inSecond needsSecond)
  exact Option.some.inj both

/-- A thread inside a bare call that needs the mutex does not hold it. -/
theorem Guarded.not_serialised (guarded : world.Guarded needs bare)
    {method : Method} {request : Call} {resume : Answer request → Code Answer Unit}
    (inside : world.threads thread = .inside method request resume)
    (needed : needs request) (isBare : bare method request) : ¬ world.Serialised needs := by
  intro serialised
  have here := guarded thread
  rw [inside] at here
  have held := serialised.held thread request ⟨method, resume, inside⟩ needed
  exact (here.1 needed).mp (decide_eq_true held) isBare

end World

/-- What each step finds and leaves. -/
inductive Moves (body : Method → Code Answer Unit) (world : World Answer Method) :
    Label Answer Method → World Answer Method → Prop where
  | start {thread : Nat} {method : Method} (found : world.threads thread = .idle) :
      Moves body world (.start thread method)
        (world.move thread (.running method (body method)))
  | acquire {thread : Nat} {method : Method} {resume : Bool → Code Answer Unit}
      (found : world.threads thread = .running method (.issue .lock resume))
      (free : world.holder = none) :
      Moves body world (.acquire thread)
        { world.move thread (.running method (resume world.poisoned)) with
          holder := some thread }
  | release {thread : Nat} {method : Method} {unwinding : Bool}
      {resume : Unit → Code Answer Unit}
      (found : world.threads thread = .running method (.issue (.unlock unwinding) resume)) :
      Moves body world (.release thread)
        { world.move thread (.running method (resume ())) with
          holder := none
          poisoned := world.poisoned || unwinding }
  | enter {thread : Nat} {method : Method} {request : Call}
      {resume : Answer request → Code Answer Unit}
      (found : world.threads thread = .running method (.issue (.call request) resume)) :
      Moves body world (.enter thread) (world.move thread (.inside method request resume))
  | leave {thread : Nat} {method : Method} {request : Call}
      {resume : Answer request → Code Answer Unit} {answer : Answer request}
      {answers : (request : Call) → Option (Answer request)}
      (found : world.threads thread = .inside method request resume)
      (answered : answers request = some answer) :
      Moves body world (.leave thread answers)
        (world.move thread (.running method (resume answer)))
  | finish {thread : Nat} {method : Method} {result : Unit}
      (found : world.threads thread = .running method (.done result)) :
      Moves body world (.finish thread) (world.move thread .idle)

theorem moves_of_step {label : Label Answer Method}
    (stepEq : step body world label = some next) : Moves body world label next := by
  cases label with
  | start thread method =>
      simp only [step] at stepEq
      split at stepEq
      · rename_i found
        cases stepEq
        exact .start found
      · cases stepEq
  | acquire thread =>
      simp only [step] at stepEq
      split at stepEq
      · rename_i found free
        cases stepEq
        exact .acquire found free
      · cases stepEq
  | release thread =>
      simp only [step] at stepEq
      split at stepEq
      · rename_i found
        cases stepEq
        exact .release found
      · cases stepEq
  | enter thread =>
      simp only [step] at stepEq
      split at stepEq
      · rename_i found
        cases stepEq
        exact .enter found
      · cases stepEq
  | leave thread answers =>
      simp only [step] at stepEq
      split at stepEq
      · rename_i found
        obtain ⟨answer, answered, rfl⟩ := Option.map_eq_some_iff.mp stepEq
        exact .leave found answered
      · cases stepEq
  | finish thread =>
      simp only [step] at stepEq
      split at stepEq
      · rename_i found
        cases stepEq
        exact .finish found
      · cases stepEq

variable {label : Label Answer Method}

/-- A step keeps every thread guarded. -/
theorem World.Guarded.step (guarded : world.Guarded needs bare)
    (bodies : ∀ method, Code.Guarded needs (bare method) false false (body method))
    (stepEq : step body world label = some next) : next.Guarded needs bare := by
  cases moves_of_step stepEq with
  | @start thread method found =>
      have here := guarded thread
      rw [found] at here
      refine guarded.move ?_ rfl fun _ _ => rfl
      change world.holds thread = false at here
      rw [World.holds_move, here]
      exact bodies method
  | @acquire thread method resume found free =>
      have here := guarded thread
      rw [found] at here
      refine guarded.move ?_ rfl fun other different => ?_
      · simpa [World.holds, Thread.Guarded] using here.2 world.poisoned
      · simpa [World.holds, free] using different.symm
  | @release thread method unwinding resume found =>
      have here := guarded thread
      rw [found] at here
      have wasHeld : world.holder = some thread := of_decide_eq_true here.1
      refine guarded.move ?_ rfl fun other different => ?_
      · exact here.2
      · simpa [World.holds, wasHeld] using different.symm
  | @enter thread method request resume found =>
      have here := guarded thread
      rw [found] at here
      refine guarded.move ?_ rfl fun _ _ => rfl
      exact here
  | @leave thread method request resume answer answers found answered =>
      have here := guarded thread
      rw [found] at here
      refine guarded.move ?_ rfl fun _ _ => rfl
      exact here.2 answer
  | @finish thread method result found =>
      have here := guarded thread
      rw [found] at here
      refine guarded.move ?_ rfl fun _ _ => rfl
      exact here

/-- The calls that need the mutex stay covered as long as no bare one is
entered. -/
theorem World.NoneBare.step (noneBare : world.NoneBare needs bare)
    (covered : ¬ EntersBare needs bare world label)
    (stepEq : step body world label = some next) : next.NoneBare needs bare := by
  cases moves_of_step stepEq with
  | start found =>
      exact World.noneBare_move noneBare fun _ _ _ other => by cases other
  | acquire found free =>
      exact World.noneBare_move noneBare fun _ _ _ other => by cases other
  | release found =>
      exact World.noneBare_move noneBare fun _ _ _ other => by cases other
  | enter found =>
      refine World.noneBare_move noneBare fun _ _ _ same needed isBare => ?_
      cases same
      exact covered ⟨_, _, _, found, needed, isBare⟩
  | leave found answered =>
      exact World.noneBare_move noneBare fun _ _ _ other => by cases other
  | finish found =>
      exact World.noneBare_move noneBare fun _ _ _ other => by cases other

open TransitionRuns (EveryStep everyStep_congr_of_guarded_invariant)

/-- In every interleaving the calls that need the mutex are serialised in every
state, exactly if no step enters a bare one. -/
theorem serialised_iff
    (bodies : ∀ method, Code.Guarded needs (bare method) false false (body method))
    (poisoned : Bool) (run : List (Label Answer Method)) :
    EveryStep (step body) (fun _ _ after => after.Serialised needs)
        (World.initial poisoned) run ↔
      EveryStep (step body) (fun before label _ => ¬ EntersBare needs bare before label)
        (World.initial poisoned) run := by
  refine (@everyStep_congr_of_guarded_invariant _ _ (step body)
    (fun world => world.Guarded needs bare ∧ world.NoneBare needs bare) _ _
    ?_ ?_ _ ⟨World.guarded_initial poisoned, World.noneBare_initial poisoned⟩ run).symm
  · rintro before label after ⟨guarded, noneBare⟩ covered stepEq
    exact ⟨guarded.step bodies stepEq, noneBare.step covered stepEq⟩
  · rintro before label after ⟨guarded, noneBare⟩ stepEq
    have guardedAfter := guarded.step bodies stepEq
    constructor
    · intro covered
      exact guardedAfter.serialised (noneBare.step covered stepEq)
    · intro serialised enters
      cases moves_of_step stepEq with
      | enter found =>
          obtain ⟨method, request, resume, same, needed, isBare⟩ := enters
          cases found.symm.trans same
          exact guardedAfter.not_serialised (World.move_threads_self _) needed isBare serialised
      | _ => exact enters

end Invariant

namespace Code

variable {allowed : Action Call → Prop} {Result : Type}

theorem everyCall_lift {program : Program Call Answer Result}
    (every : program.EveryCall fun request => allowed (.call request)) :
    (lift program : Code Answer Result).EveryCall allowed := by
  induction program with
  | done result => trivial
  | issue request resume ih => exact ⟨every.1, fun answer => ih answer (every.2 answer)⟩

/-- Where the mutex may be locked and unlocked, a program may be run under it. -/
theorem everyCall_locked {program : Program Call Answer Result} (locks : allowed .lock)
    (unlocks : ∀ unwinding, allowed (.unlock unwinding))
    (every : program.EveryCall fun request => allowed (.call request)) :
    (locked program : Code Answer Result).EveryCall allowed := by
  refine ⟨locks, fun poisoned => ?_⟩
  refine (everyCall_lift every).bind fun result => ?_
  exact ⟨unlocks false, fun _ => trivial⟩

theorem everyCall_lockedUnwinding {program : Program Call Answer (Completion Result)}
    (locks : allowed .lock) (unlocks : ∀ unwinding, allowed (.unlock unwinding))
    (every : program.EveryCall fun request => allowed (.call request)) :
    (lockedUnwinding program : Code Answer (Completion Result)).EveryCall allowed := by
  refine ⟨locks, fun poisoned => ?_⟩
  refine (everyCall_lift every).bind fun completion => ?_
  exact ⟨unlocks _, fun _ => trivial⟩

end Code

section EveryAction

variable {body : Method → Code Answer Unit} {allowed : Method → Action Call → Prop}
  {world next : World Answer Method} {label : Label Answer Method}

/-- Everything that is left of a thread's method is allowed to it. -/
def Thread.EveryAction (allowed : Method → Action Call → Prop) : Thread Answer Method → Prop
  | .idle => True
  | .running method rest => rest.EveryCall (allowed method)
  | .inside method request resume =>
      allowed method (.call request) ∧ ∀ answer, (resume answer).EveryCall (allowed method)

def World.EveryAction (allowed : Method → Action Call → Prop) (world : World Answer Method) :
    Prop :=
  ∀ thread, (world.threads thread).EveryAction allowed

theorem World.everyAction_initial (poisoned : Bool) :
    (initial poisoned : World Answer Method).EveryAction allowed :=
  fun _ => trivial

theorem World.EveryAction.move (every : world.EveryAction allowed) {thread : Nat}
    {moved : Thread Answer Method} (here : moved.EveryAction allowed)
    (threads : next.threads = (world.move thread moved).threads) :
    next.EveryAction allowed := by
  intro other
  rw [threads]
  by_cases same : other = thread
  · subst same
    rw [move_threads_self]
    exact here
  · rw [move_threads_of_ne same]
    exact every other

theorem World.EveryAction.step (every : world.EveryAction allowed)
    (bodies : ∀ method, (body method).EveryCall (allowed method))
    (stepEq : LockedThreads.step body world label = some next) :
    next.EveryAction allowed := by
  cases moves_of_step stepEq with
  | @start thread method found =>
      refine every.move ?_ rfl
      exact bodies method
  | @acquire thread method resume found free =>
      have here := every thread
      rw [found] at here
      refine every.move ?_ rfl
      exact here.2 world.poisoned
  | @release thread method unwinding resume found =>
      have here := every thread
      rw [found] at here
      refine every.move ?_ rfl
      exact here.2 ()
  | @enter thread method request resume found =>
      have here := every thread
      rw [found] at here
      refine every.move ?_ rfl
      exact here
  | @leave thread method request resume answer answers found answered =>
      have here := every thread
      rw [found] at here
      refine every.move ?_ rfl
      exact here.2 answer
  | @finish thread method result found =>
      refine every.move ?_ rfl
      trivial

end EveryAction

end LockedThreads
