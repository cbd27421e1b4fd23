import UcxRs.LockedThreads

/-!
# Operations that a mutex makes atomic

A thread that holds the mutex runs one program of calls from the lock to the unlock, and
calls that it makes without the mutex only look at the library.  Threads with such code do
what threads would do that perform each program in one step: this is a refinement between
two systems over one library, and it holds for every library and every interleaving.

The refinement has a limit that the system of atomic operations states: a call without the
mutex may see the library in the middle of another thread's operation.
-/

namespace AtomicSections

open Interaction
open LockedThreads
open TransitionRuns

/-- The library's answers to the calls of one moment. -/
abbrev Answers {Call : Type} (Answer : Call → Type) : Type :=
  (request : Call) → Option (Answer request)

/-- A library: which answers it may give in a state, and its state after one.  Calls that
only look leave it alone. -/
structure Library {Call : Type} (Answer : Call → Type) (State : Type) (looks : Call → Prop)
    where
  accepts : State → (request : Call) → Answer request → Option State
  reads : ∀ {state request answer next}, looks request →
    accepts state request answer = some next → next = state

variable {Call Method Operation State : Type} {Answer : Call → Type}
  {Result : Operation → Type} {looks : Call → Prop}

/-- The library answers the next call of a program. -/
def serve {Value : Type} (library : Library Answer State looks)
    (serving : State × Program Call Answer Value) (answers : Answers Answer) :
    Option (State × Program Call Answer Value) :=
  match serving.2 with
  | .done _ => none
  | .issue request resume => do
      let answer ← answers request
      let state ← library.accepts serving.1 request answer
      some (state, resume answer)

structure Shared (Method State : Type) (Answer : Call → Type) where
  threads : World Answer Method
  state : State

/-- The library's state after a step of the threads: it answers the call that a thread
comes back from. -/
def Shared.answered (library : Library Answer State looks) (shared : Shared Method State Answer) :
    Label Answer Method → Option State
  | .leave thread answers =>
      match shared.threads.threads thread with
      | .inside _ request _ => (answers request).bind (library.accepts shared.state request)
      | _ => none
  | _ => some shared.state

def sharedStep (library : Library Answer State looks) (body : Method → Code Answer Unit)
    (shared : Shared Method State Answer) (label : Label Answer Method) :
    Option (Shared Method State Answer) := do
  let threads ← step body shared.threads label
  let state ← shared.answered library label
  some ⟨threads, state⟩

/-- What a thread does in one step: an operation, or a look at the library. -/
inductive Atom (Call Operation : Type) where
  | perform (operation : Operation)
  | look (request : Call)

abbrev Atom.Reply (Answer : Call → Type) (Result : Operation → Type) :
    Atom Call Operation → Type
  | .perform operation => Result operation
  | .look request => Answer request

/-- A method in terms of operations. -/
abbrev Plan (Answer : Call → Type) (Result : Operation → Type) (Value : Type) : Type :=
  Program (Atom Call Operation) (Atom.Reply Answer Result) Value

structure Planned (Method State : Type) (Answer : Call → Type) (Result : Operation → Type)
    where
  threads : Nat → Option (Method × Plan Answer Result Unit)
  state : State

def Planned.initial (state : State) : Planned Method State Answer Result where
  threads := fun _ => none
  state := state

/-- An operation comes with the answers to its calls.  A look comes with the moment it
sees: between two operations, or after the given answers to an operation of a thread. -/
inductive Move (Answer : Call → Type) (Method : Type) where
  | start (thread : Nat) (method : Method)
  | perform (thread : Nat) (answers : List (Answers Answer))
  | look (thread : Nat) (answers : Answers Answer)
      (midway : Option (Nat × List (Answers Answer)))
  | finish (thread : Nat)

section Planned

variable (library : Library Answer State looks)
  (program : (operation : Operation) → Program Call Answer (Result operation))

/-- The state of the library when an operation of the thread has got these answers. -/
def Planned.visible (planned : Planned Method State Answer Result) :
    Option (Nat × List (Answers Answer)) → Option State
  | none => some planned.state
  | some (thread, answers) =>
      match planned.threads thread with
      | some (_, .issue (.perform operation) _) =>
          (runFrom (serve library) (planned.state, program operation) answers).map Prod.fst
      | _ => none

def Planned.move (planned : Planned Method State Answer Result) (thread : Nat)
    (moved : Option (Method × Plan Answer Result Unit)) :
    Planned Method State Answer Result :=
  { planned with threads := Function.update planned.threads thread moved }

def plannedStep (plan : Method → Plan Answer Result Unit)
    (planned : Planned Method State Answer Result) :
    Move Answer Method → Option (Planned Method State Answer Result)
  | .start thread method =>
      match planned.threads thread with
      | none => some (planned.move thread (some (method, plan method)))
      | some _ => none
  | .perform thread answers =>
      match planned.threads thread with
      | some (method, .issue (.perform operation) resume) =>
          match runFrom (serve library) (planned.state, program operation) answers with
          | some (state, .done result) =>
              some { planned.move thread (some (method, resume result)) with state := state }
          | _ => none
      | _ => none
  | .look thread answers midway =>
      match planned.threads thread with
      | some (method, .issue (.look request) resume) => do
          let seen ← planned.visible library program midway
          let answer ← answers request
          let _ ← library.accepts seen request answer
          some (planned.move thread (some (method, resume answer)))
      | _ => none
  | .finish thread =>
      match planned.threads thread with
      | some (_, .done _) => some (planned.move thread none)
      | _ => none

end Planned

section Follows

variable {Value Last : Type}
  {program : (operation : Operation) → Program Call Answer (Result operation)}

/-- A program of calls under the mutex, with the code after the unlock. -/
def sectioned {Inner : Type} (rest : Program Call Answer Inner) (unwinding : Inner → Bool)
    (next : Inner → Code Answer Value) : Code Answer Value :=
  Code.lift rest >>= fun result => .issue (.unlock (unwinding result)) fun _ => next result

/-- The code performs each operation of the plan between a lock and an unlock, and looks at
the library where the plan does. -/
inductive Follows (looks : Call → Prop)
    (program : (operation : Operation) → Program Call Answer (Result operation)) :
    Code Answer Value → Plan Answer Result Value → Prop where
  | done (value : Value) : Follows looks program (.done value) (.done value)
  | look {request : Call} {resume : Answer request → Code Answer Value}
      {next : Answer request → Plan Answer Result Value} (isLook : looks request)
      (rest : ∀ answer, Follows looks program (resume answer) (next answer)) :
      Follows looks program (.issue (.call request) resume) (.issue (.look request) next)
  | perform {operation : Operation} {resume : Bool → Code Answer Value}
      {unwinding : Result operation → Bool} {after : Result operation → Code Answer Value}
      {next : Result operation → Plan Answer Result Value}
      (locked : ∀ poisoned, resume poisoned = sectioned (program operation) unwinding after)
      (rest : ∀ result, Follows looks program (after result) (next result)) :
      Follows looks program (.issue .lock resume) (.issue (.perform operation) next)

theorem sectioned_bind {Inner : Type} (rest : Program Call Answer Inner)
    (unwinding : Inner → Bool) (next : Inner → Code Answer Value)
    (last : Value → Code Answer Last) :
    sectioned rest unwinding next >>= last =
      sectioned rest unwinding fun result => next result >>= last :=
  bind_assoc _ _ _

theorem Follows.bind {code : Code Answer Value} {plan : Plan Answer Result Value}
    {next : Value → Code Answer Last} {nextPlan : Value → Plan Answer Result Last}
    (first : Follows looks program code plan)
    (second : ∀ value, Follows looks program (next value) (nextPlan value)) :
    Follows looks program (code >>= next) (plan >>= nextPlan) := by
  induction first with
  | done value => exact second value
  | look isLook rest ih => exact .look isLook ih
  | @perform operation resume unwinding after following locked rest ih =>
      have sections : ∀ poisoned, resume poisoned >>= next =
          sectioned (program operation) unwinding fun result => after result >>= next := by
        intro poisoned
        rw [locked poisoned, sectioned_bind]
      exact .perform sections ih

theorem Follows.forRounds {round : Code Answer (Option Value)} {after : Code Answer Value}
    {roundPlan : Plan Answer Result (Option Value)} {afterPlan : Plan Answer Result Value}
    (inRound : Follows looks program round roundPlan)
    (afterwards : Follows looks program after afterPlan) (rounds : Nat) :
    Follows looks program (Program.forRounds round after rounds)
      (Program.forRounds roundPlan afterPlan rounds) := by
  induction rounds with
  | zero => exact afterwards
  | succ rounds ih =>
      refine inRound.bind fun outcome => ?_
      cases outcome with
      | none => exact ih
      | some value => exact .done value

/-- Looks at the library, in both systems. -/
def looking (looker : Program Call Answer Value) : Plan Answer Result Value :=
  looker.embed Atom.look fun _ answer => answer

theorem follows_lift {looker : Program Call Answer Value} (every : looker.EveryCall looks) :
    Follows looks program (Code.lift looker) (looking looker) := by
  induction looker with
  | done value => exact .done value
  | issue request resume ih => exact .look every.1 fun answer => ih answer (every.2 answer)

def performing (operation : Operation) : @Plan Call Operation Answer Result (Result operation) :=
  Program.call (Atom.perform operation)

/-- One operation under the mutex. -/
theorem follows_section (operation : Operation) (unwinding : Result operation → Bool) :
    Follows looks program
      (.issue .lock fun _ => sectioned (program operation) unwinding .done)
      (performing operation) :=
  .perform (fun _ => rfl) .done

end Follows

section Refinement

variable {library : Library Answer State looks}
  {program : (operation : Operation) → Program Call Answer (Result operation)}
  {body : Method → Code Answer Unit} {plan : Method → Plan Answer Result Unit}

/-- The method of a thread and what is left of it.  A call that it is inside is left. -/
def remaining : Thread Answer Method → Option (Method × Code Answer Unit)
  | .idle => none
  | .running method rest => some (method, rest)
  | .inside method request resume => some (method, .issue (.call request) resume)

/-- Code in the middle of the first operation of a plan: what is left of the operation is
what the library has not answered yet. -/
inductive Midway (library : Library Answer State looks)
    (program : (operation : Operation) → Program Call Answer (Result operation))
    (begun now : State) (answers : List (Answers Answer)) :
    Code Answer Unit → Plan Answer Result Unit → Prop where
  | intro {operation : Operation} {rest : Program Call Answer (Result operation)}
      {unwinding : Result operation → Bool} {after : Result operation → Code Answer Unit}
      {next : Result operation → Plan Answer Result Unit}
      (served : runFrom (serve library) (begun, program operation) answers = some (now, rest))
      (follows : ∀ result, Follows looks program (after result) (next result)) :
      Midway library program begun now answers (sectioned rest unwinding after)
        (.issue (.perform operation) next)

/-- Both threads run the same method, or none. -/
inductive Alike (related : Code Answer Unit → Plan Answer Result Unit → Prop) :
    Option (Method × Code Answer Unit) → Option (Method × Plan Answer Result Unit) → Prop where
  | idle : Alike related none none
  | running {method : Method} {rest : Code Answer Unit} {plan : Plan Answer Result Unit}
      (holds : related rest plan) : Alike related (some (method, rest)) (some (method, plan))

/-- Threads with a mutex as threads with atomic operations.  While the mutex is free the
library is in the same state.  While it is held, the holder is still before its operation
in the system of atomic operations, and the library is as that operation has left it so
far. -/
structure Refines (library : Library Answer State looks)
    (program : (operation : Operation) → Program Call Answer (Result operation))
    (shared : Shared Method State Answer) (planned : Planned Method State Answer Result) :
    Prop where
  outside : ∀ thread, shared.threads.holder ≠ some thread →
    Alike (Follows looks program) (remaining (shared.threads.threads thread))
      (planned.threads thread)
  free : shared.threads.holder = none → shared.state = planned.state
  held : ∀ thread, shared.threads.holder = some thread → ∃ method rest left answers,
    remaining (shared.threads.threads thread) = some (method, rest) ∧
      planned.threads thread = some (method, left) ∧
      Midway library program planned.state shared.state answers rest left

section Inside

variable {begun now : State} {answers : List (Answers Answer)} {rest : Code Answer Unit}
  {left : Plan Answer Result Unit}

/-- The operation is over when its thread unlocks the mutex. -/
theorem Midway.of_unlock {unwinding : Bool} {resume : Unit → Code Answer Unit}
    (midway : Midway library program begun now answers (.issue (.unlock unwinding) resume) left) :
    ∃ operation result next, left = .issue (.perform operation) next ∧
      runFrom (serve library) (begun, program operation) answers = some (now, .done result) ∧
      Follows looks program (resume ()) (next result) := by
  generalize codeEq : (.issue (.unlock unwinding) resume : Code Answer Unit) = code at midway
  cases midway with
  | @intro operation rest unwinding after next served follows =>
      cases rest with
      | issue request continue_ => cases codeEq
      | done result =>
          cases codeEq
          exact ⟨operation, result, next, rfl, served, follows result⟩

/-- An answered call takes the operation further. -/
theorem Midway.of_call {request : Call} {resume : Answer request → Code Answer Unit}
    (midway : Midway library program begun now answers (.issue (.call request) resume) left)
    {given : Answers Answer} {answer : Answer request} {next : State}
    (answered : given request = some answer)
    (accepted : library.accepts now request answer = some next) :
    Midway library program begun next (answers ++ [given]) (resume answer) left := by
  generalize codeEq : (.issue (.call request) resume : Code Answer Unit) = code at midway
  cases midway with
  | @intro operation rest unwinding after following served follows =>
      cases rest with
      | done result => cases codeEq
      | issue call continue_ =>
          cases codeEq
          have further : serve library (now, .issue request continue_) given =
              some (next, continue_ answer) := by
            simp only [serve, answered, accepted, Option.bind_eq_bind, Option.bind_some]
          refine .intro ?_ follows
          rw [runFrom_append served, runFrom_singleton]
          exact further

theorem Midway.not_done {result : Unit}
    (midway : Midway library program begun now answers (.done result) left) : False := by
  generalize codeEq : (.done result : Code Answer Unit) = code at midway
  cases midway with
  | @intro operation rest unwinding after next served follows =>
      cases rest with
      | done result => cases codeEq
      | issue request resume => cases codeEq

/-- What a look sees while the operation is going on. -/
theorem Midway.visible (midway : Midway library program begun now answers rest left)
    {planned : Planned Method State Answer Result} {thread : Nat} {method : Method}
    (here : planned.threads thread = some (method, left)) (same : planned.state = begun) :
    planned.visible library program (some (thread, answers)) = some now := by
  cases midway with
  | intro served follows =>
      subst same
      simp only [Planned.visible, here, served, Option.map_some]

end Inside

section Steps

variable {shared next : Shared Method State Answer} {planned : Planned Method State Answer Result}
  {thread : Nat}

/-- A thread that does not hold the mutex moves in both systems. -/
theorem Refines.move (refines : Refines library program shared planned)
    (apart : shared.threads.holder ≠ some thread) {moved : Thread Answer Method}
    {left : Option (Method × Plan Answer Result Unit)}
    (alike : Alike (Follows looks program) (remaining moved) left) :
    Refines library program ⟨shared.threads.move thread moved, shared.state⟩
      (planned.move thread left) := by
  constructor
  · intro other outside
    by_cases same : other = thread
    · subst same
      change Alike _ (remaining ((shared.threads.move other moved).threads other))
        (Function.update planned.threads other left other)
      rw [World.move_threads_self, Function.update_self]
      exact alike
    · change Alike _ (remaining ((shared.threads.move thread moved).threads other))
        (Function.update planned.threads thread left other)
      rw [World.move_threads_of_ne same, Function.update_of_ne same]
      exact refines.outside other outside
  · exact refines.free
  · intro other holds
    have different : other ≠ thread := by
      rintro rfl
      exact apart holds
    obtain ⟨method, rest, before, answers, code, plan, midway⟩ := refines.held other holds
    refine ⟨method, rest, before, answers, ?_, ?_, midway⟩
    · change remaining ((shared.threads.move thread moved).threads other) = _
      rw [World.move_threads_of_ne different]
      exact code
    · exact (Function.update_of_ne different _ _).trans plan

/-- A thread that is not in a method does not hold the mutex. -/
theorem Refines.apart (refines : Refines library program shared planned)
    (notMidway : ∀ method rest left answers,
      remaining (shared.threads.threads thread) = some (method, rest) →
        ¬ Midway library program planned.state shared.state answers rest left) :
    shared.threads.holder ≠ some thread := by
  intro holds
  obtain ⟨method, rest, left, answers, code, -, midway⟩ := refines.held thread holds
  exact notMidway method rest left answers code midway

/-- A thread that does not hold the mutex follows its plan. -/
theorem Refines.follows (refines : Refines library program shared planned)
    (apart : shared.threads.holder ≠ some thread) {method : Method} {rest : Code Answer Unit}
    (code : remaining (shared.threads.threads thread) = some (method, rest)) :
    ∃ left, planned.threads thread = some (method, left) ∧ Follows looks program rest left := by
  have alike := refines.outside thread apart
  rw [code] at alike
  generalize planEq : planned.threads thread = plan at alike
  cases alike with
  | running holds => exact ⟨_, rfl, holds⟩

/-- What is left of the methods decides the refinement. -/
theorem Refines.of_remaining (refines : Refines library program shared planned)
    (same : ∀ other, remaining (next.threads.threads other) =
      remaining (shared.threads.threads other))
    (holder : next.threads.holder = shared.threads.holder) (state : next.state = shared.state) :
    Refines library program next planned := by
  constructor
  · intro other outside
    rw [same]
    exact refines.outside other (holder ▸ outside)
  · intro isFree
    rw [state]
    exact refines.free (holder ▸ isFree)
  · intro other holds
    rw [same, state]
    exact refines.held other (holder ▸ holds)

/-- What is left of the other threads' methods stays. -/
theorem remaining_move_of_ne {world : World Answer Method} {other : Nat}
    (different : other ≠ thread) (moved : Thread Answer Method) :
    remaining ((world.move thread moved).threads other) = remaining (world.threads other) := by
  rw [World.move_threads_of_ne different]

/-- A thread takes the mutex: it stands at the start of an operation. -/
theorem Refines.acquire (refines : Refines library program shared planned)
    {method : Method} {resume : Bool → Code Answer Unit}
    (found : shared.threads.threads thread = .running method (.issue .lock resume))
    (isFree : shared.threads.holder = none) :
    Refines library program
      ⟨{ shared.threads.move thread (.running method (resume shared.threads.poisoned)) with
        holder := some thread }, shared.state⟩ planned := by
  have notHeld : ∀ other, shared.threads.holder ≠ some other := by
    intro other holds
    cases isFree.symm.trans holds
  have code : remaining (shared.threads.threads thread) =
      some (method, .issue .lock resume) := congrArg remaining found
  obtain ⟨left, plan, follows⟩ := refines.follows (notHeld thread) code
  constructor
  · intro other outside
    have different : other ≠ thread := by
      rintro rfl
      exact outside rfl
    exact (remaining_move_of_ne different _).symm ▸ refines.outside other (notHeld other)
  · intro absurdlyFree
    cases absurdlyFree
  · intro other holds
    cases holds
    cases follows with
    | @perform operation _ unwinding after following locked rest =>
        refine ⟨method, resume shared.threads.poisoned, _, [], ?_, plan, ?_⟩
        · exact congrArg remaining (World.move_threads_self _)
        · rw [locked, refines.free isFree]
          exact .intro rfl rest

/-- A thread drops the guard: its operation is performed. -/
theorem Refines.release (refines : Refines library program shared planned)
    {method : Method} {unwinding : Bool} {resume : Unit → Code Answer Unit}
    (found : shared.threads.threads thread = .running method (.issue (.unlock unwinding) resume)) :
    ∃ moves final, runFrom (plannedStep library program plan) planned moves = some final ∧
      Refines library program
        ⟨{ shared.threads.move thread (.running method (resume ())) with
          holder := none
          poisoned := shared.threads.poisoned || unwinding }, shared.state⟩ final := by
  have code : remaining (shared.threads.threads thread) =
      some (method, .issue (.unlock unwinding) resume) := congrArg remaining found
  have holds : shared.threads.holder = some thread := by
    by_contra apart
    obtain ⟨left, -, follows⟩ := refines.follows apart code
    cases follows
  obtain ⟨same, rest, left, answers, codeAgain, plan, midway⟩ := refines.held thread holds
  cases code.symm.trans codeAgain
  obtain ⟨operation, result, next, rfl, served, follows⟩ := midway.of_unlock
  refine ⟨[.perform thread answers],
    { planned.move thread (some (method, next result)) with state := shared.state }, ?_, ?_⟩
  · rw [runFrom_singleton]
    simp only [plannedStep, plan, served]
  · constructor
    · intro other _
      by_cases here : other = thread
      · subst here
        change Alike _ (remaining ((shared.threads.move other _).threads other))
          (Function.update planned.threads other _ other)
        rw [World.move_threads_self, Function.update_self]
        exact .running follows
      · have apart : shared.threads.holder ≠ some other := by
          rw [holds]
          exact fun equal => here (Option.some.inj equal).symm
        change Alike _ (remaining ((shared.threads.move thread _).threads other))
          (Function.update planned.threads thread _ other)
        rw [World.move_threads_of_ne here, Function.update_of_ne here]
        exact refines.outside other apart
    · exact fun _ => rfl
    · rintro other ⟨⟩

/-- The library answers a call of the holder: its operation goes on. -/
theorem Refines.leave_held (refines : Refines library program shared planned)
    {method : Method} {request : Call} {resume : Answer request → Code Answer Unit}
    (found : shared.threads.threads thread = .inside method request resume)
    (holds : shared.threads.holder = some thread) {given : Answers Answer}
    {answer : Answer request} {state : State} (answered : given request = some answer)
    (accepted : library.accepts shared.state request answer = some state) :
    Refines library program
      ⟨shared.threads.move thread (.running method (resume answer)), state⟩ planned := by
  have code : remaining (shared.threads.threads thread) =
      some (method, .issue (.call request) resume) := congrArg remaining found
  obtain ⟨same, rest, left, answers, codeAgain, plan, midway⟩ := refines.held thread holds
  cases code.symm.trans codeAgain
  constructor
  · intro other outside
    have different : other ≠ thread := by
      rintro rfl
      exact outside holds
    exact (remaining_move_of_ne different _).symm ▸ refines.outside other outside
  · intro isFree
    cases holds.symm.trans isFree
  · intro other holdsOther
    cases holds.symm.trans holdsOther
    refine ⟨method, resume answer, left, answers ++ [given], ?_, plan, ?_⟩
    · exact congrArg remaining (World.move_threads_self _)
    · exact midway.of_call answered accepted

/-- The library answers a look: it may be in the middle of another thread's operation. -/
theorem Refines.leave_apart (refines : Refines library program shared planned)
    {method : Method} {request : Call} {resume : Answer request → Code Answer Unit}
    (found : shared.threads.threads thread = .inside method request resume)
    (apart : shared.threads.holder ≠ some thread) {given : Answers Answer}
    {answer : Answer request} {state : State} (answered : given request = some answer)
    (accepted : library.accepts shared.state request answer = some state) :
    ∃ moves final, runFrom (plannedStep library program plan) planned moves = some final ∧
      Refines library program
        ⟨shared.threads.move thread (.running method (resume answer)), state⟩ final := by
  have code : remaining (shared.threads.threads thread) =
      some (method, .issue (.call request) resume) := congrArg remaining found
  obtain ⟨left, plan, follows⟩ := refines.follows apart code
  obtain ⟨midway, visible⟩ : ∃ midway,
      planned.visible library program midway = some shared.state := by
    cases holder : shared.threads.holder with
    | none => exact ⟨none, congrArg some (refines.free holder).symm⟩
    | some other =>
        obtain ⟨_, rest, before, answers, -, here, midway⟩ := refines.held other holder
        exact ⟨some (other, answers), midway.visible here rfl⟩
  cases follows with
  | @look _ _ next isLook rest =>
      obtain rfl : state = shared.state := library.reads isLook accepted
      refine ⟨[.look thread given midway], planned.move thread (some (method, next answer)),
        ?_, ?_⟩
      · rw [runFrom_singleton]
        simp only [plannedStep, plan, visible, answered, accepted, Option.bind_eq_bind,
          Option.bind_some]
      · exact refines.move apart (.running (rest answer))

/-- Every step of the threads is a step of atomic operations, or none. -/
theorem Refines.step (follows : ∀ method, Follows looks program (body method) (plan method))
    (refines : Refines library program shared planned) {label : Label Answer Method}
    (stepEq : sharedStep library body shared label = some next) :
    ∃ moves final, runFrom (plannedStep library program plan) planned moves = some final ∧
      Refines library program next final := by
  obtain ⟨threads, threadsEq, stepEq⟩ := Option.bind_eq_some_iff.mp stepEq
  obtain ⟨state, answered, stepEq⟩ := Option.bind_eq_some_iff.mp stepEq
  cases stepEq
  cases moves_of_step threadsEq with
  | @start thread method found =>
      cases answered
      have apart : shared.threads.holder ≠ some thread := refines.apart fun _ _ _ _ code => by
        rw [found] at code
        cases code
      have alike := refines.outside thread apart
      rw [found] at alike
      generalize planEq : planned.threads thread = left at alike
      cases alike
      refine ⟨[.start thread method], planned.move thread (some (method, plan method)), ?_, ?_⟩
      · rw [runFrom_singleton]
        simp only [plannedStep, planEq]
      · exact refines.move apart (.running (follows method))
  | @acquire thread method resume found isFree =>
      cases answered
      exact ⟨[], planned, rfl, refines.acquire found isFree⟩
  | @release thread method unwinding resume found =>
      cases answered
      exact refines.release found
  | @enter thread method request resume found =>
      cases answered
      refine ⟨[], planned, rfl, refines.of_remaining (fun other => ?_) rfl rfl⟩
      by_cases same : other = thread
      · subst same
        change remaining ((shared.threads.move other _).threads other) = _
        rw [World.move_threads_self, found]
        rfl
      · exact remaining_move_of_ne same _
  | @leave thread method request resume answer given found answeredCall =>
      have accepted : library.accepts shared.state request answer = some state := by
        simpa only [Shared.answered, found, answeredCall, Option.bind_some] using answered
      by_cases holds : shared.threads.holder = some thread
      · exact ⟨[], planned, rfl, refines.leave_held found holds answeredCall accepted⟩
      · exact refines.leave_apart found holds answeredCall accepted
  | @finish thread method result found =>
      cases answered
      have code : remaining (shared.threads.threads thread) = some (method, .done result) :=
        congrArg remaining found
      have apart : shared.threads.holder ≠ some thread := by
        refine refines.apart fun _ _ _ _ other midway => ?_
        cases code.symm.trans other
        exact midway.not_done
      obtain ⟨left, plan, followsPlan⟩ := refines.follows apart code
      cases followsPlan
      refine ⟨[.finish thread], planned.move thread none, ?_, refines.move apart .idle⟩
      rw [runFrom_singleton]
      simp only [plannedStep, plan]

end Steps

theorem refines_initial (poisoned : Bool) (state : State) :
    Refines library program (⟨.initial poisoned, state⟩ : Shared Method State Answer)
      (.initial state) where
  outside _ _ := .idle
  free _ := rfl
  held _ holds := by cases holds

/-- In every interleaving, for every library: threads whose code follows a plan do what
some run of the atomic operations does. -/
theorem atomic_of_follows (library : Library Answer State looks)
    (follows : ∀ method, Follows looks program (body method) (plan method)) (poisoned : Bool)
    (state : State) (run : List (Label Answer Method)) :
    EveryStep (sharedStep library body)
      (fun _ _ next => ∃ moves planned,
        runFrom (plannedStep library program plan) (.initial state) moves = some planned ∧
          Refines library program next planned)
      ⟨.initial poisoned, state⟩ run :=
  everyStep_refines (fun refines stepEq => refines.step follows stepEq)
    (refines_initial poisoned state) run

end Refinement

end AtomicSections
