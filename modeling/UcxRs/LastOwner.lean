import UcxRs.ThreadCompletion
import Mathlib.Data.Finset.Card

/-!
# The last owner disposes of a shared value

A value behind a mutex is shared by reference-counted owners.  Threads clone owners,
drop them, and run methods through them; a method borrows its owner, so that owner is
not dropped before the method has finished.  The drop that takes the count from one to
zero runs a disposal program on the value.

The law of this file is for any number of threads in any interleaving: the disposal
begins when no owner is left, no thread is in a method and the mutex is free; no method
makes a call after it; and its closing call is made once and is the last call of all.
-/

namespace Interaction.Program

variable {Call : Type} {Answer : Call → Type} {Result Value : Type}

/-- Every way through the program ends with a closing call, the only one on it. -/
def ClosesWith (closing : Call → Prop) : Program Call Answer Result → Prop
  | done _ => False
  | issue request resume =>
      (closing request ∧ ∀ answer, ∃ result, resume answer = done result) ∨
        (¬ closing request ∧ ∀ answer, ClosesWith closing (resume answer))

theorem ClosesWith.bind {closing : Call → Prop} {program : Program Call Answer Value}
    {next : Value → Program Call Answer Result}
    (open_ : program.EveryCall fun request => ¬ closing request)
    (closes : ∀ value, (next value).ClosesWith closing) :
    (program >>= next).ClosesWith closing := by
  induction program with
  | done value => exact closes value
  | issue request resume ih =>
      exact .inr ⟨open_.1, fun answer => ih answer (open_.2 answer)⟩

theorem ClosesWith.embed {Outer : Type} {Reply : Outer → Type} {inject : Call → Outer}
    {answer : (request : Call) → Reply (inject request) → Answer request}
    {closing : Call → Prop} {closingOuter : Outer → Prop}
    {program : Program Call Answer Result} (closes : program.ClosesWith closing)
    (agree : ∀ request, closingOuter (inject request) ↔ closing request) :
    (program.embed inject answer).ClosesWith closingOuter := by
  induction program with
  | done result => exact closes
  | issue request resume ih =>
      rcases closes with ⟨closed, last⟩ | ⟨open_, rest⟩
      · refine .inl ⟨(agree request).mpr closed, fun reply => ?_⟩
        obtain ⟨result, resumeEq⟩ := last (answer request reply)
        exact ⟨result, congrArg (·.embed inject answer) resumeEq⟩
      · exact .inr ⟨(agree request).not.mpr open_, fun reply => ih _ (rest _)⟩

/-- An execution that comes to an end made the closing call last, and only then. -/
theorem ClosesWith.calls_eq {closing : Call → Prop} {program : Program Call Answer Result}
    (closes : program.ClosesWith closing) {environment : Environment Call Answer}
    {history : List Call} {result : Result}
    (finished : (program.execute environment history).result = some result) :
    ∃ front last, (program.execute environment history).calls = front ++ [last] ∧
      closing last ∧ ∀ request ∈ front, ¬ closing request := by
  induction program generalizing history with
  | done value => exact closes.elim
  | issue request resume ih =>
      cases answered : environment history request with
      | none =>
          rw [execute_issue_none answered] at finished
          cases finished
      | some answer =>
          rw [execute_issue_some answered] at finished ⊢
          rcases closes with ⟨closed, last⟩ | ⟨open_, rest⟩
          · obtain ⟨value, resumeEq⟩ := last answer
            rw [resumeEq]
            exact ⟨[], request, rfl, closed, fun _ absent => by cases absent⟩
          · obtain ⟨front, last, callsEq, closed, openFront⟩ := ih answer (rest answer) finished
            refine ⟨request :: front, last, congrArg (request :: ·) callsEq, closed, ?_⟩
            intro other member
            rcases List.mem_cons.mp member with rfl | later
            · exact open_
            · exact openFront other later

end Interaction.Program

namespace LastOwner

open Interaction (Program)
open LockedThreads (Action Code Reply Thread)
open TransitionRuns

variable {Call Method : Type} {Answer : Call → Type}

/-- What a thread runs: a method, through an owner that it borrows, or the disposal. -/
inductive Task (Method : Type) where
  | method (owner : Nat) (method : Method)
  | disposal

def Task.isDisposal : Task Method → Bool
  | method _ _ => false
  | disposal => true

/-- A call that a thread entered. -/
structure Entry (Call : Type) where
  disposing : Bool
  call : Call

/-- The threads and the mutex, the threads that are busy, the owners and their count,
and the calls that were entered, newest first. -/
structure World (Answer : Call → Type) (Method : Type) where
  threads : LockedThreads.World Answer (Task Method)
  busy : Finset Nat
  owners : Finset Nat
  strong : Nat
  log : List (Entry Call)

/-- One owner, and no thread in a method. -/
def World.initial (poisoned : Bool) (owner : Nat) : World Answer Method where
  threads := .initial poisoned
  busy := ∅
  owners := {owner}
  strong := 1
  log := []

/-- An owner is cloned or dropped, or a thread moves. -/
inductive Label (Answer : Call → Type) (Method : Type) where
  | clone (owner fresh : Nat)
  | drop (thread owner : Nat)
  | move (label : LockedThreads.Label Answer (Task Method))

/-- What a thread is running. -/
def taskOf : Thread Answer (Task Method) → Option (Task Method)
  | .idle => none
  | .running task _ => some task
  | .inside task _ _ => some task

/-- The owner that a thread borrows. -/
def borrowed (thread : Thread Answer (Task Method)) : Option Nat :=
  match taskOf thread with
  | some (.method owner _) => some owner
  | _ => none

/-- A method is started through an owner that exists, the disposal only by the drop of
the last one. -/
def permits (owners : Finset Nat) : LockedThreads.Label Answer (Task Method) → Bool
  | .start _ (.method owner _) => decide (owner ∈ owners)
  | .start _ .disposal => false
  | _ => true

/-- The call that a label enters. -/
def entered (threads : LockedThreads.World Answer (Task Method)) :
    LockedThreads.Label Answer (Task Method) → List (Entry Call)
  | .enter thread =>
      match threads.threads thread with
      | .running task (.issue (.call request) _) => [⟨task.isDisposal, request⟩]
      | _ => []
  | _ => []

def busyAfter (busy : Finset Nat) : LockedThreads.Label Answer (Task Method) → Finset Nat
  | .start thread _ => insert thread busy
  | .finish thread => busy.erase thread
  | _ => busy

section Steps

variable (body : Method → Code Answer Unit) (disposal : Program Call Answer Unit)

def taskBody : Task Method → Code Answer Unit
  | .method _ method => body method
  | .disposal => Code.lift disposal

/-- The threads take their steps; the drop that finds a count of one starts the
disposal. -/
def step (world : World Answer Method) : Label Answer Method → Option (World Answer Method)
  | .clone owner fresh =>
      if owner ∈ world.owners ∧ fresh ∉ world.owners then
        some { world with
          owners := insert fresh world.owners
          strong := world.strong + 1 }
      else none
  | .drop thread owner =>
      -- a borrowed owner is not dropped
      if owner ∈ world.owners ∧
          ∀ other ∈ world.busy, borrowed (world.threads.threads other) ≠ some owner then
        if world.strong = 1 then
          (LockedThreads.step (taskBody body disposal) world.threads
            (.start thread .disposal)).map fun threads =>
              { world with
                threads := threads
                busy := insert thread world.busy
                owners := world.owners.erase owner
                strong := world.strong - 1 }
        else
          some { world with
            owners := world.owners.erase owner
            strong := world.strong - 1 }
      else none
  | .move label =>
      if permits world.owners label then
        (LockedThreads.step (taskBody body disposal) world.threads label).map fun threads =>
          { world with
            threads := threads
            busy := busyAfter world.busy label
            log := entered world.threads label ++ world.log }
      else none

end Steps

section Invariant

variable {body : Method → Code Answer Unit} {disposal : Program Call Answer Unit}
  {closing : Call → Prop} {world next : World Answer Method}

inductive Moves (body : Method → Code Answer Unit) (disposal : Program Call Answer Unit)
    (world : World Answer Method) : World Answer Method → Prop where
  | clone {owner fresh : Nat} (found : owner ∈ world.owners) (new : fresh ∉ world.owners) :
      Moves body disposal world { world with
        owners := insert fresh world.owners
        strong := world.strong + 1 }
  | dropShared {owner : Nat} (found : owner ∈ world.owners)
      (unborrowed : ∀ other ∈ world.busy,
        borrowed (world.threads.threads other) ≠ some owner)
      (shared : world.strong ≠ 1) :
      Moves body disposal world { world with
        owners := world.owners.erase owner
        strong := world.strong - 1 }
  | dropLast {thread owner : Nat} (found : owner ∈ world.owners)
      (unborrowed : ∀ other ∈ world.busy,
        borrowed (world.threads.threads other) ≠ some owner)
      (last : world.strong = 1) (idle : world.threads.threads thread = .idle) :
      Moves body disposal world { world with
        threads := world.threads.move thread (.running .disposal (Code.lift disposal))
        busy := insert thread world.busy
        owners := world.owners.erase owner
        strong := world.strong - 1 }
  | move {label : LockedThreads.Label Answer (Task Method)}
      {threads : LockedThreads.World Answer (Task Method)}
      (permitted : permits world.owners label = true)
      (moved : LockedThreads.step (taskBody body disposal) world.threads label =
        some threads) :
      Moves body disposal world { world with
        threads := threads
        busy := busyAfter world.busy label
        log := entered world.threads label ++ world.log }

theorem moves_of_step {label : Label Answer Method}
    (stepEq : step body disposal world label = some next) : Moves body disposal world next := by
  cases label with
  | clone owner fresh =>
      obtain ⟨⟨found, new⟩, cloned⟩ := Option.ite_none_right_eq_some.mp stepEq
      cases cloned
      exact .clone found new
  | drop thread owner =>
      obtain ⟨⟨found, unborrowed⟩, dropped⟩ := Option.ite_none_right_eq_some.mp stepEq
      by_cases last : world.strong = 1
      · rw [if_pos last] at dropped
        obtain ⟨threads, started, rfl⟩ := Option.map_eq_some_iff.mp dropped
        cases LockedThreads.moves_of_step started with
        | start idle => exact .dropLast found unborrowed last idle
      · rw [if_neg last] at dropped
        cases dropped
        exact .dropShared found unborrowed last
  | move label =>
      obtain ⟨permitted, stepped⟩ := Option.ite_none_right_eq_some.mp stepEq
      obtain ⟨threads, moved, rfl⟩ := Option.map_eq_some_iff.mp stepped
      exact .move permitted moved

/-- What a thread runs after a step it ran before, or it has just started it. -/
theorem taskOf_of_step {threads after : LockedThreads.World Answer (Task Method)}
    {taskBody : Task Method → Code Answer Unit}
    {label : LockedThreads.Label Answer (Task Method)}
    (moved : LockedThreads.step taskBody threads label = some after) {thread : Nat}
    {task : Task Method} (runs : taskOf (after.threads thread) = some task) :
    taskOf (threads.threads thread) = some task ∨ label = .start thread task := by
  have unmoved : ∀ mover state, after.threads = Function.update threads.threads mover state →
      (taskOf state = some task → mover = thread →
        taskOf (threads.threads thread) = some task ∨ label = .start thread task) →
      taskOf (threads.threads thread) = some task ∨ label = .start thread task := by
    intro mover state updated here
    rw [updated] at runs
    by_cases same : thread = mover
    · rw [same, Function.update_self] at runs
      exact here runs same.symm
    · rw [Function.update_of_ne same] at runs
      exact .inl runs
  cases LockedThreads.moves_of_step moved with
  | @start mover started idle =>
      refine unmoved mover _ rfl fun startedTask isMover => .inr ?_
      cases startedTask
      rw [isMover]
  | @acquire mover _ _ found _ =>
      refine unmoved mover _ rfl fun sameTask isMover => .inl ?_
      rw [← isMover, found]
      exact sameTask
  | @release mover _ _ _ found =>
      refine unmoved mover _ rfl fun sameTask isMover => .inl ?_
      rw [← isMover, found]
      exact sameTask
  | @enter mover _ _ _ found =>
      refine unmoved mover _ rfl fun sameTask isMover => .inl ?_
      rw [← isMover, found]
      exact sameTask
  | @leave mover _ _ _ _ _ found _ =>
      refine unmoved mover _ rfl fun sameTask isMover => .inl ?_
      rw [← isMover, found]
      exact sameTask
  | @finish mover _ _ found =>
      refine unmoved mover _ rfl fun sameTask _ => ?_
      cases sameTask

/-- A closing call, as an action of a thread. -/
def IsClosing (closing : Call → Prop) : Action Call → Prop
  | .call request => closing request
  | _ => False

/-- A method makes no closing call; the disposal leaves the mutex alone. -/
def Allowed (closing : Call → Prop) : Task Method → Action Call → Prop
  | .method _ _, action => ¬ IsClosing closing action
  | .disposal, action => ∃ request, action = .call request

/-- The disposal has its closing call before it. -/
def Pending (closing : Call → Prop) : Thread Answer (Task Method) → Prop
  | .running .disposal rest => rest.ClosesWith (IsClosing closing)
  | .inside .disposal request resume =>
      ¬ closing request ∧ ∀ answer, (resume answer).ClosesWith (IsClosing closing)
  | _ => False

/-- The disposal has made its closing call, or has finished. -/
def Finishing : Thread Answer (Task Method) → Prop
  | .idle => True
  | .running .disposal rest => ∃ result, rest = .done result
  | .inside .disposal _ resume => ∀ answer, ∃ result, resume answer = .done result
  | _ => False

/-- No owner is left, and at most the given thread is not idle. -/
structure Abandoned (world : World Answer Method) (thread : Nat) : Prop where
  ownerless : world.owners = ∅
  alone : ∀ other, other ≠ thread → world.threads.threads other = .idle
  free : world.threads.holder = none

/-- The disposal has not closed the value. -/
def Unclosed (closing : Call → Prop) (log : List (Entry Call)) : Prop :=
  ∀ entry ∈ log, entry.disposing = true → ¬ closing entry.call

/-- The value is owned, or one thread disposes of it, or it has been closed. -/
inductive Phase (closing : Call → Prop) (world : World Answer Method) : Prop where
  | owned (owners : world.owners.Nonempty)
      (methods : ∀ thread, taskOf (world.threads.threads thread) ≠ some .disposal)
      (calls : ∀ entry ∈ world.log, entry.disposing = false)
  | pending (thread : Nat) (abandoned : Abandoned world thread)
      (pending : Pending closing (world.threads.threads thread))
      (unclosed : Unclosed closing world.log)
  | closed (thread : Nat) (abandoned : Abandoned world thread)
      (finishing : Finishing (world.threads.threads thread)) {request : Call}
      {older : List (Entry Call)} (last : world.log = ⟨true, request⟩ :: older)
      (closes : closing request) (unclosed : Unclosed closing older)

structure Invariant (closing : Call → Prop) (world : World Answer Method) : Prop where
  counted : world.strong = world.owners.card
  tracked : ∀ thread, thread ∈ world.busy ↔ world.threads.threads thread ≠ .idle
  borrows : ∀ thread owner, borrowed (world.threads.threads thread) = some owner →
    owner ∈ world.owners
  balanced : world.threads.Balanced
  actions : world.threads.EveryAction (Allowed closing)
  methodCalls : ∀ entry ∈ world.log, entry.disposing = false → ¬ closing entry.call
  ordered : world.log.Pairwise fun newer older =>
    older.disposing = true → newer.disposing = true
  phase : Phase closing world

theorem invariant_initial (poisoned : Bool) (owner : Nat) :
    Invariant closing (World.initial poisoned owner : World Answer Method) where
  counted := rfl
  tracked _ := by simp [World.initial, LockedThreads.World.initial]
  borrows _ _ borrows := by cases borrows
  balanced := LockedThreads.World.guarded_initial poisoned
  actions := LockedThreads.World.everyAction_initial poisoned
  methodCalls _ member := by cases member
  ordered := .nil
  phase := .owned ⟨owner, Finset.mem_singleton_self owner⟩ (fun _ runs => by cases runs)
    fun _ member => by cases member

theorem closesWith_lift {Result : Type} {program : Program Call Answer Result}
    (closes : program.ClosesWith closing) :
    (Code.lift program).ClosesWith (IsClosing closing) := by
  induction program with
  | done result => exact closes
  | issue request resume ih =>
      rcases closes with ⟨last, ends⟩ | ⟨notLast, later⟩
      · refine .inl ⟨last, fun answer => ?_⟩
        obtain ⟨result, finished⟩ := ends answer
        exact ⟨result, congrArg Code.lift finished⟩
      · exact .inr ⟨notLast, fun answer => ih answer (later answer)⟩

theorem balanced_lift {Result : Type} (program : Program Call Answer Result) :
    LockedThreads.Balanced false (Code.lift program) :=
  Code.guarded_lift (Program.everyCall_of_forall (fun _ needed => needed.elim) program)

theorem borrowed_eq_some {thread : Thread Answer (Task Method)} {owner : Nat}
    (borrows : borrowed thread = some owner) :
    ∃ method, taskOf thread = some (.method owner method) := by
  unfold borrowed at borrows
  split at borrows
  · rename_i runs
    cases borrows
    exact ⟨_, runs⟩
  · cases borrows

theorem borrowed_of_taskOf {thread : Thread Answer (Task Method)} {owner : Nat}
    {method : Method} (runs : taskOf thread = some (.method owner method)) :
    borrowed thread = some owner := by
  simp only [borrowed, runs]

/-- When the last owner is dropped no thread is in a method. -/
theorem Invariant.all_idle (invariant : Invariant closing world) {owner : Nat}
    (found : owner ∈ world.owners) (last : world.strong = 1)
    (unborrowed : ∀ other ∈ world.busy,
      borrowed (world.threads.threads other) ≠ some owner) (thread : Nat) :
    world.threads.threads thread = .idle := by
  have single : world.owners = {owner} :=
    Finset.eq_singleton_iff_unique_mem.mpr ⟨found, fun other member =>
      Finset.card_le_one.mp (by rw [← invariant.counted]; omega) other member owner found⟩
  by_contra busy
  have inBusy := (invariant.tracked thread).mpr busy
  cases runs : taskOf (world.threads.threads thread) with
  | none =>
      cases state : world.threads.threads thread with
      | idle => exact busy state
      | running task rest => simp [state, taskOf] at runs
      | inside task request resume => simp [state, taskOf] at runs
  | some task =>
      cases task with
      | method borrowedOwner method =>
          have borrows := borrowed_of_taskOf runs
          have member := invariant.borrows thread borrowedOwner borrows
          rw [single, Finset.mem_singleton] at member
          exact unborrowed thread inBusy (member ▸ borrows)
      | disposal =>
          cases invariant.phase with
          | owned owners methods calls => exact methods thread runs
          | pending _ abandoned _ _ =>
              rw [abandoned.ownerless] at found
              cases found
          | closed _ abandoned _ _ _ _ =>
              rw [abandoned.ownerless] at found
              cases found

/-- When every thread is idle the mutex is free. -/
theorem Invariant.holder_none (invariant : Invariant closing world)
    (idle : ∀ thread, world.threads.threads thread = .idle) :
    world.threads.holder = none := by
  cases held : world.threads.holder with
  | none => rfl
  | some holder =>
      have here := invariant.balanced holder
      rw [idle holder] at here
      have holds : world.threads.holds holder = true := decide_eq_true held
      exact absurd (holds.symm.trans here) (by decide)

theorem entered_cases (threads : LockedThreads.World Answer (Task Method))
    (label : LockedThreads.Label Answer (Task Method)) :
    entered threads label = [] ∨ ∃ thread task request resume, label = .enter thread ∧
      threads.threads thread = .running task (.issue (.call request) resume) ∧
        entered threads label = [⟨task.isDisposal, request⟩] := by
  cases label with
  | enter thread =>
      cases state : threads.threads thread with
      | running task rest =>
          cases rest with
          | issue action resume =>
              cases action with
              | call request =>
                  exact .inr ⟨thread, task, request, resume, rfl, state, by
                    simp only [entered, state]⟩
              | _ => exact .inl (by simp only [entered, state])
          | done result => exact .inl (by simp only [entered, state])
      | _ => exact .inl (by simp only [entered, state])
  | _ => exact .inl rfl

theorem start_disposal {thread : Nat} (idle : world.threads.threads thread = .idle) :
    LockedThreads.step (taskBody body disposal) world.threads (.start thread .disposal) =
      some (world.threads.move thread (.running .disposal (Code.lift disposal))) := by
  simp only [LockedThreads.step, idle]
  rfl

theorem Invariant.strong_step (invariant : Invariant closing world)
    (moves : Moves body disposal world next) : next.strong = next.owners.card := by
  have counted := invariant.counted
  cases moves with
  | clone found new =>
      change world.strong + 1 = (insert _ world.owners).card
      rw [Finset.card_insert_of_notMem new, counted]
  | dropShared found unborrowed shared =>
      change world.strong - 1 = (world.owners.erase _).card
      rw [Finset.card_erase_of_mem found, counted]
  | dropLast found unborrowed last idle =>
      change world.strong - 1 = (world.owners.erase _).card
      rw [Finset.card_erase_of_mem found, counted]
  | move permitted moved => exact counted

theorem tracked_update {busy : Finset Nat} {threads : Nat → Thread Answer (Task Method)}
    (tracked : ∀ thread, thread ∈ busy ↔ threads thread ≠ .idle) {mover : Nat}
    {moved : Thread Answer (Task Method)} (before : threads mover ≠ .idle)
    (after : moved ≠ .idle) (thread : Nat) :
    thread ∈ busy ↔ Function.update threads mover moved thread ≠ .idle := by
  rw [tracked thread]
  by_cases same : thread = mover
  · rw [same, Function.update_self]
    exact iff_of_true before after
  · rw [Function.update_of_ne same]

theorem tracked_insert {busy : Finset Nat} {threads : Nat → Thread Answer (Task Method)}
    (tracked : ∀ thread, thread ∈ busy ↔ threads thread ≠ .idle) {mover : Nat}
    {moved : Thread Answer (Task Method)} (after : moved ≠ .idle) (thread : Nat) :
    thread ∈ insert mover busy ↔ Function.update threads mover moved thread ≠ .idle := by
  rw [Finset.mem_insert]
  by_cases same : thread = mover
  · rw [same, Function.update_self]
    exact iff_of_true (.inl rfl) after
  · rw [Function.update_of_ne same, tracked thread]
    exact or_iff_right same

theorem Invariant.tracked_step (invariant : Invariant closing world)
    (moves : Moves body disposal world next) (thread : Nat) :
    thread ∈ next.busy ↔ next.threads.threads thread ≠ .idle := by
  have tracked := invariant.tracked
  cases moves with
  | clone found new => exact tracked thread
  | dropShared found unborrowed shared => exact tracked thread
  | dropLast found unborrowed last idle =>
      exact tracked_insert tracked (fun isIdle => by cases isIdle) thread
  | move permitted moved =>
      cases LockedThreads.moves_of_step moved with
      | start idle => exact tracked_insert tracked (fun isIdle => by cases isIdle) thread
      | acquire running free =>
          exact tracked_update tracked (fun isIdle => by cases running.symm.trans isIdle)
            (fun isIdle => by cases isIdle) thread
      | release running =>
          exact tracked_update tracked (fun isIdle => by cases running.symm.trans isIdle)
            (fun isIdle => by cases isIdle) thread
      | enter running =>
          exact tracked_update tracked (fun isIdle => by cases running.symm.trans isIdle)
            (fun isIdle => by cases isIdle) thread
      | leave inside answered =>
          exact tracked_update tracked (fun isIdle => by cases inside.symm.trans isIdle)
            (fun isIdle => by cases isIdle) thread
      | @finish mover method result running =>
          change thread ∈ world.busy.erase mover ↔
            Function.update world.threads.threads mover .idle thread ≠ .idle
          rw [Finset.mem_erase, tracked thread]
          by_cases same : thread = mover
          · rw [same, Function.update_self]
            exact iff_of_false (fun both => both.1 rfl) fun busy => busy rfl
          · rw [Function.update_of_ne same]
            exact and_iff_right same

/-- A thread in a method is busy. -/
theorem Invariant.busy_of_borrowed (invariant : Invariant closing world) {thread owner : Nat}
    (borrows : borrowed (world.threads.threads thread) = some owner) :
    thread ∈ world.busy := by
  rw [invariant.tracked thread]
  intro idle
  rw [idle] at borrows
  cases borrows

theorem Invariant.borrows_step (invariant : Invariant closing world)
    (moves : Moves body disposal world next) (thread owner : Nat)
    (borrows : borrowed (next.threads.threads thread) = some owner) :
    owner ∈ next.owners := by
  cases moves with
  | clone found new => exact Finset.mem_insert_of_mem (invariant.borrows thread owner borrows)
  | dropShared found unborrowed shared =>
      refine Finset.mem_erase.mpr ⟨?_, invariant.borrows thread owner borrows⟩
      rintro rfl
      exact unborrowed thread (invariant.busy_of_borrowed borrows) borrows
  | @dropLast dropper dropped found unborrowed last idle =>
      have allIdle := invariant.all_idle found last unborrowed
      change borrowed (Function.update world.threads.threads dropper _ thread) = some owner
        at borrows
      by_cases same : thread = dropper
      · rw [same, Function.update_self] at borrows
        cases borrows
      · rw [Function.update_of_ne same, allIdle thread] at borrows
        cases borrows
  | @move label threads permitted moved =>
      obtain ⟨method, runs⟩ := borrowed_eq_some borrows
      rcases taskOf_of_step moved runs with before | rfl
      · exact invariant.borrows thread owner (borrowed_of_taskOf before)
      · exact of_decide_eq_true permitted

/-- A step of the threads keeps what holds of them, whoever starts it. -/
theorem threads_step {holds : LockedThreads.World Answer (Task Method) → Prop}
    (preserved : ∀ {threads label after}, holds threads →
      LockedThreads.step (taskBody body disposal) threads label = some after → holds after)
    (before : holds world.threads) (moves : Moves body disposal world next) :
    holds next.threads := by
  cases moves with
  | clone found new => exact before
  | dropShared found unborrowed shared => exact before
  | dropLast found unborrowed last idle => exact preserved before (start_disposal idle)
  | move permitted moved => exact preserved before moved

/-- The task that enters a call is allowed it. -/
theorem Invariant.allowed_call (invariant : Invariant closing world) {thread : Nat}
    {task : Task Method} {request : Call} {resume : Answer request → Code Answer Unit}
    (running : world.threads.threads thread = .running task (.issue (.call request) resume)) :
    Allowed closing task (.call request) := by
  have here := invariant.actions thread
  rw [running] at here
  exact here.1

theorem Invariant.methodCalls_step (invariant : Invariant closing world)
    (moves : Moves body disposal world next) :
    ∀ entry ∈ next.log, entry.disposing = false → ¬ closing entry.call := by
  cases moves with
  | clone found new => exact invariant.methodCalls
  | dropShared found unborrowed shared => exact invariant.methodCalls
  | dropLast found unborrowed last idle => exact invariant.methodCalls
  | @move label threads permitted moved =>
      intro entry member byMethod
      rcases List.mem_append.mp member with new | old
      · rcases entered_cases world.threads label with none | ⟨thread, task, request, resume,
          rfl, running, one⟩
        · rw [none] at new
          cases new
        · rw [one, List.mem_singleton] at new
          rw [new] at byMethod ⊢
          have allowed := invariant.allowed_call running
          cases task with
          | method owner method => exact allowed
          | disposal => cases byMethod
      · exact invariant.methodCalls entry old byMethod

/-- The disposal has made a call only if no owner is left. -/
theorem Phase.disposal_of_called (phase : Phase closing world) {entry : Entry Call}
    (member : entry ∈ world.log) (byDisposal : entry.disposing = true) :
    ∃ thread, Abandoned world thread := by
  cases phase with
  | owned owners methods calls => cases byDisposal.symm.trans (calls entry member)
  | pending thread abandoned pending unclosed => exact ⟨thread, abandoned⟩
  | closed thread abandoned finishing last closes unclosed => exact ⟨thread, abandoned⟩

/-- No method is left when no owner is. -/
theorem Invariant.task_of_abandoned (invariant : Invariant closing world) {thread mover : Nat}
    (abandoned : Abandoned world thread) {task : Task Method}
    (runs : taskOf (world.threads.threads mover) = some task) :
    mover = thread ∧ task = .disposal := by
  constructor
  · by_contra other
    rw [abandoned.alone mover other] at runs
    cases runs
  · cases task with
    | disposal => rfl
    | method owner method =>
        have member := invariant.borrows mover owner (borrowed_of_taskOf runs)
        rw [abandoned.ownerless] at member
        cases member

theorem Invariant.ordered_step (invariant : Invariant closing world)
    (moves : Moves body disposal world next) :
    next.log.Pairwise fun newer older => older.disposing = true → newer.disposing = true := by
  cases moves with
  | clone found new => exact invariant.ordered
  | dropShared found unborrowed shared => exact invariant.ordered
  | dropLast found unborrowed last idle => exact invariant.ordered
  | @move label threads permitted moved =>
      change List.Pairwise _ (entered world.threads label ++ world.log)
      rcases entered_cases world.threads label with none | ⟨thread, task, request, resume,
        rfl, running, one⟩
      · rw [none]
        exact invariant.ordered
      · rw [one]
        refine List.pairwise_cons.mpr ⟨fun older member byDisposal => ?_, invariant.ordered⟩
        obtain ⟨disposer, abandoned⟩ := invariant.phase.disposal_of_called member byDisposal
        have runs : taskOf (world.threads.threads thread) = some task := by rw [running]; rfl
        obtain ⟨-, rfl⟩ := invariant.task_of_abandoned abandoned runs
        rfl

/-- A move of the disposing thread that leaves the mutex alone. -/
theorem Abandoned.move {thread : Nat} (abandoned : Abandoned world thread)
    {moved : Thread Answer (Task Method)} (owners : next.owners = world.owners)
    (threads : next.threads = world.threads.move thread moved) : Abandoned next thread where
  ownerless := owners.trans abandoned.ownerless
  alone other different := by
    rw [threads, LockedThreads.World.move_threads_of_ne different]
    exact abandoned.alone other different
  free := by
    rw [threads]
    exact abandoned.free

/-- While no owner is left only the disposing thread moves, and it does not touch the
mutex. -/
theorem Invariant.moved_of_abandoned (invariant : Invariant closing world) {thread : Nat}
    (abandoned : Abandoned world thread) {label : LockedThreads.Label Answer (Task Method)}
    {threads : LockedThreads.World Answer (Task Method)}
    (permitted : permits world.owners label = true)
    (moved : LockedThreads.step (taskBody body disposal) world.threads label = some threads) :
    (∃ request resume,
      world.threads.threads thread = .running .disposal (.issue (.call request) resume) ∧
        threads = world.threads.move thread (.inside .disposal request resume) ∧
          entered world.threads label = [⟨true, request⟩]) ∨
    (∃ request resume answer,
      world.threads.threads thread = .inside .disposal request resume ∧
        threads = world.threads.move thread (.running .disposal (resume answer)) ∧
          entered world.threads label = []) ∨
    (∃ result, world.threads.threads thread = .running .disposal (.done result) ∧
      threads = world.threads.move thread .idle ∧ entered world.threads label = []) := by
  have mover : ∀ {mover task}, taskOf (world.threads.threads mover) = some task →
      mover = thread ∧ task = .disposal :=
    fun runs => invariant.task_of_abandoned abandoned runs
  have noMutex : ∀ {mover task action resume},
      world.threads.threads mover = .running task (.issue action resume) →
        ∃ request, action = .call request := by
    intro mover' task action resume running
    have here := invariant.actions mover'
    obtain ⟨-, rfl⟩ := mover (by rw [running]; rfl : taskOf _ = some task)
    rw [running] at here
    exact here.1
  cases LockedThreads.moves_of_step moved with
  | @start starter task idle =>
      cases task with
      | disposal => cases permitted
      | method owner method =>
          have member := of_decide_eq_true permitted
          rw [abandoned.ownerless] at member
          cases member
  | acquire running free =>
      obtain ⟨request, isCall⟩ := noMutex running
      cases isCall
  | release running =>
      obtain ⟨request, isCall⟩ := noMutex running
      cases isCall
  | @enter enterer task request resume running =>
      obtain ⟨rfl, rfl⟩ := mover (by rw [running]; rfl : taskOf _ = some task)
      exact .inl ⟨request, resume, running, rfl, by simp only [entered, running]; rfl⟩
  | @leave leaver task request resume answer answers inside answered =>
      obtain ⟨rfl, rfl⟩ := mover (by rw [inside]; rfl : taskOf _ = some task)
      exact .inr (.inl ⟨request, resume, answer, inside, rfl, rfl⟩)
  | @finish finisher task result running =>
      obtain ⟨rfl, rfl⟩ := mover (by rw [running]; rfl : taskOf _ = some task)
      exact .inr (.inr ⟨result, running, rfl, rfl⟩)

/-- While an owner is left the value is owned. -/
theorem Phase.owned_of_mem (phase : Phase closing world) {owner : Nat}
    (found : owner ∈ world.owners) :
    (∀ thread, taskOf (world.threads.threads thread) ≠ some .disposal) ∧
      ∀ entry ∈ world.log, entry.disposing = false := by
  cases phase with
  | owned owners methods calls => exact ⟨methods, calls⟩
  | pending thread abandoned pending unclosed =>
      rw [abandoned.ownerless] at found
      cases found
  | closed thread abandoned finishing last closes unclosed =>
      rw [abandoned.ownerless] at found
      cases found

/-- A move while the value is owned. -/
theorem phase_of_owned {label : LockedThreads.Label Answer (Task Method)}
    {threads : LockedThreads.World Answer (Task Method)}
    (permitted : permits world.owners label = true)
    (moved : LockedThreads.step (taskBody body disposal) world.threads label = some threads)
    (owners : world.owners.Nonempty)
    (methods : ∀ thread, taskOf (world.threads.threads thread) ≠ some .disposal)
    (calls : ∀ entry ∈ world.log, entry.disposing = false) :
    Phase closing { world with
      threads := threads
      busy := busyAfter world.busy label
      log := entered world.threads label ++ world.log } := by
  refine .owned owners (fun thread runs => ?_) fun entry member => ?_
  · rcases taskOf_of_step moved runs with before | rfl
    · exact methods thread before
    · cases permitted
  · rcases List.mem_append.mp member with new | old
    · rcases entered_cases world.threads label with none | ⟨thread, task, request, resume,
        rfl, running, one⟩
      · rw [none] at new
        cases new
      · rw [one, List.mem_singleton] at new
        rw [new]
        cases task with
        | method owner method => rfl
        | disposal => exact absurd (by rw [running]; rfl) (methods thread)
    · exact calls entry old

/-- A move of the disposing thread before its closing call. -/
theorem Invariant.phase_of_pending (invariant : Invariant closing world)
    {label : LockedThreads.Label Answer (Task Method)}
    {threads : LockedThreads.World Answer (Task Method)}
    (permitted : permits world.owners label = true)
    (moved : LockedThreads.step (taskBody body disposal) world.threads label = some threads)
    {thread : Nat} (abandoned : Abandoned world thread)
    (pending : Pending closing (world.threads.threads thread))
    (unclosed : Unclosed closing world.log) :
    Phase closing { world with
      threads := threads
      busy := busyAfter world.busy label
      log := entered world.threads label ++ world.log } := by
  rcases invariant.moved_of_abandoned abandoned permitted moved with
    ⟨request, resume, running, rfl, enters⟩ | ⟨request, resume, answer, inside, rfl, enters⟩ |
      ⟨result, running, rfl, enters⟩
  · rw [running] at pending
    rw [enters]
    rcases pending with ⟨closes, ends⟩ | ⟨notClosing, later⟩
    · refine .closed thread (abandoned.move rfl rfl) ?_ rfl closes unclosed
      change Finishing (Function.update world.threads.threads thread _ thread)
      rw [Function.update_self]
      exact ends
    · refine .pending thread (abandoned.move rfl rfl) ?_ ?_
      · change Pending closing (Function.update world.threads.threads thread _ thread)
        rw [Function.update_self]
        exact ⟨notClosing, later⟩
      · intro entry member byDisposal
        rcases List.mem_cons.mp member with rfl | old
        · exact notClosing
        · exact unclosed entry old byDisposal
  · rw [inside] at pending
    rw [enters]
    refine .pending thread (abandoned.move rfl rfl) ?_ unclosed
    change Pending closing (Function.update world.threads.threads thread _ thread)
    rw [Function.update_self]
    exact pending.2 answer
  · rw [running] at pending
    exact absurd pending id

/-- A move of the disposing thread after its closing call. -/
theorem Invariant.phase_of_closed (invariant : Invariant closing world)
    {label : LockedThreads.Label Answer (Task Method)}
    {threads : LockedThreads.World Answer (Task Method)}
    (permitted : permits world.owners label = true)
    (moved : LockedThreads.step (taskBody body disposal) world.threads label = some threads)
    {thread : Nat} (abandoned : Abandoned world thread)
    (finishing : Finishing (world.threads.threads thread)) {request : Call}
    {older : List (Entry Call)} (last : world.log = ⟨true, request⟩ :: older)
    (closes : closing request) (unclosed : Unclosed closing older) :
    Phase closing { world with
      threads := threads
      busy := busyAfter world.busy label
      log := entered world.threads label ++ world.log } := by
  rcases invariant.moved_of_abandoned abandoned permitted moved with
    ⟨request', resume, running, rfl, enters⟩ | ⟨request', resume, answer, inside, rfl, enters⟩ |
      ⟨result, running, rfl, enters⟩
  · rw [running] at finishing
    obtain ⟨result, isDone⟩ := finishing
    cases isDone
  · rw [inside] at finishing
    rw [enters]
    refine .closed thread (abandoned.move rfl rfl) ?_ last closes unclosed
    change Finishing (Function.update world.threads.threads thread _ thread)
    rw [Function.update_self]
    exact finishing answer
  · rw [enters]
    refine .closed thread (abandoned.move rfl rfl) ?_ last closes unclosed
    change Finishing (Function.update world.threads.threads thread _ thread)
    rw [Function.update_self]
    trivial

theorem Invariant.phase_step (invariant : Invariant closing world)
    (closes : disposal.ClosesWith closing) (moves : Moves body disposal world next) :
    Phase closing next := by
  cases moves with
  | @clone owner fresh found new =>
      obtain ⟨methods, calls⟩ := invariant.phase.owned_of_mem found
      exact .owned ⟨fresh, Finset.mem_insert_self fresh _⟩ methods calls
  | @dropShared owner found unborrowed shared =>
      obtain ⟨methods, calls⟩ := invariant.phase.owned_of_mem found
      refine .owned ?_ methods calls
      have positive : 0 < world.owners.card := Finset.card_pos.mpr ⟨owner, found⟩
      have counted := invariant.counted
      refine Finset.card_pos.mp ?_
      change 0 < (world.owners.erase owner).card
      rw [Finset.card_erase_of_mem found]
      omega
  | @dropLast thread owner found unborrowed last idle =>
      obtain ⟨methods, calls⟩ := invariant.phase.owned_of_mem found
      have allIdle := invariant.all_idle found last unborrowed
      refine .pending thread ⟨?_, ?_, ?_⟩ ?_ ?_
      · refine Finset.card_eq_zero.mp ?_
        change (world.owners.erase owner).card = 0
        rw [Finset.card_erase_of_mem found, ← invariant.counted, last]
      · intro other different
        change Function.update world.threads.threads thread _ other = .idle
        rw [Function.update_of_ne different]
        exact allIdle other
      · exact invariant.holder_none allIdle
      · change Pending closing (Function.update world.threads.threads thread _ thread)
        rw [Function.update_self]
        exact closesWith_lift closes
      · intro entry member byDisposal
        cases byDisposal.symm.trans (calls entry member)
  | move permitted moved =>
      cases invariant.phase with
      | owned owners methods calls => exact phase_of_owned permitted moved owners methods calls
      | pending thread abandoned pending unclosed =>
          exact invariant.phase_of_pending permitted moved abandoned pending unclosed
      | closed thread abandoned finishing last closing unclosed =>
          exact invariant.phase_of_closed permitted moved abandoned finishing last closing
            unclosed

theorem Invariant.step (invariant : Invariant closing world)
    (balanced : ∀ method, LockedThreads.Balanced false (body method))
    (keeps : ∀ method, (body method).EveryCall fun action => ¬ IsClosing closing action)
    (closes : disposal.ClosesWith closing) {label : Label Answer Method}
    (stepEq : step body disposal world label = some next) : Invariant closing next := by
  have moves := moves_of_step stepEq
  have taskBalanced : ∀ task, LockedThreads.Balanced false (taskBody body disposal task) := by
    intro task
    cases task with
    | method owner method => exact balanced method
    | disposal => exact balanced_lift disposal
  have taskAllowed : ∀ task,
      (taskBody body disposal task).EveryCall (Allowed closing task) := by
    intro task
    cases task with
    | method owner method => exact keeps method
    | disposal =>
        exact Code.everyCall_lift
          (Program.everyCall_of_forall (fun request => ⟨request, rfl⟩) disposal)
  exact {
    counted := invariant.strong_step moves
    tracked := invariant.tracked_step moves
    borrows := invariant.borrows_step moves
    balanced := threads_step (fun holds moved => holds.step taskBalanced moved)
      invariant.balanced moves
    actions := threads_step (fun holds moved => holds.step taskAllowed moved)
      invariant.actions moves
    methodCalls := invariant.methodCalls_step moves
    ordered := invariant.ordered_step moves
    phase := invariant.phase_step closes moves }

/-- The closing call comes last, when no owner is left, nobody else is busy and the mutex
is free; and when everybody has finished without an owner, it has been made. -/
structure DisposedOnce (closing : Call → Prop) (world : World Answer Method) : Prop where
  counted : world.strong = world.owners.card
  ordered : world.log.Pairwise fun newer older =>
    older.disposing = true → newer.disposing = true
  exclusive : ∀ entry ∈ world.log, entry.disposing = true →
    ∃ thread, Abandoned world thread
  last : ∀ newer entry older, world.log = newer ++ entry :: older →
    closing entry.call → entry.disposing = true ∧ newer = []
  complete : world.owners = ∅ → world.busy = ∅ →
    ∃ request older, world.log = ⟨true, request⟩ :: older ∧ closing request

theorem Invariant.disposedOnce (invariant : Invariant closing world) :
    DisposedOnce closing world where
  counted := invariant.counted
  ordered := invariant.ordered
  exclusive entry member byDisposal := invariant.phase.disposal_of_called member byDisposal
  last newer entry older split closes := by
    have member : entry ∈ world.log := by rw [split]; simp
    have byDisposal : entry.disposing = true := by
      by_contra byMethod
      exact invariant.methodCalls entry member (by simpa using byMethod) closes
    refine ⟨byDisposal, ?_⟩
    cases invariant.phase with
    | owned owners methods calls => cases byDisposal.symm.trans (calls entry member)
    | pending thread abandoned pending unclosed =>
        exact absurd closes (unclosed entry member byDisposal)
    | @closed thread abandoned finishing request earlier last closesLast unclosed =>
        cases newer with
        | nil => rfl
        | cons first rest =>
            rw [last] at split
            obtain ⟨-, earlierEq⟩ := List.cons.inj split
            have old : entry ∈ earlier := by rw [earlierEq]; simp
            exact absurd closes (unclosed entry old byDisposal)
  complete ownerless notBusy := by
    have idle : ∀ thread, world.threads.threads thread = .idle := by
      intro thread
      by_contra busy
      have member := (invariant.tracked thread).mpr busy
      rw [notBusy] at member
      cases member
    cases invariant.phase with
    | owned owners methods calls =>
        rw [ownerless] at owners
        cases owners.ne_empty rfl
    | pending thread abandoned pending unclosed =>
        rw [idle thread] at pending
        exact pending.elim
    | @closed thread abandoned finishing request earlier last closesLast unclosed =>
        exact ⟨request, earlier, last, closesLast⟩

/-- In every interleaving of methods, clones and drops the value is disposed of once. -/
theorem disposed_once
    (balanced : ∀ method, LockedThreads.Balanced false (body method))
    (keeps : ∀ method, (body method).EveryCall fun action => ¬ IsClosing closing action)
    (closes : disposal.ClosesWith closing) (poisoned : Bool) (owner : Nat)
    (run : List (Label Answer Method)) :
    EveryStep (step body disposal) (fun _ _ after => DisposedOnce closing after)
      (World.initial poisoned owner) run :=
  everyStep_of_invariant (fun holds stepEq => Invariant.step holds balanced keeps closes stepEq)
    (fun holds => holds.disposedOnce) (invariant_initial poisoned owner) run

end Invariant

end LastOwner
