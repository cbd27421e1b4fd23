import Mathlib.Data.List.Basic

/-!
# Programs that call a foreign library

A program is a tree of calls: it either returns a result or issues one call
and continues with the answer.  Code that talks to a foreign library is
written as such a program once, and then read in several ways: executed
against an environment that answers every call from the calls made before it,
stepped call by call among other programs, or inspected for what its calls can
name.

A call whose answer type is empty never comes back; it models the end of the
process.
-/

namespace Interaction

/-- A program that returns a result or issues a call and resumes with its
answer. -/
inductive Program (Call : Type) (Answer : Call → Type) (Result : Type) where
  | done (result : Result)
  | issue (call : Call) (resume : Answer call → Program Call Answer Result)

namespace Program

variable {Call : Type} {Answer : Call → Type} {Result Value : Type}

/-- Run one program and continue with its result. -/
def andThen : Program Call Answer Result →
    (Result → Program Call Answer Value) → Program Call Answer Value
  | done result, next => next result
  | issue call resume, next => issue call fun answer => (resume answer).andThen next

instance : Monad (Program Call Answer) where
  pure := done
  bind := andThen

/-- Issue one call and return its answer. -/
def call (request : Call) : Program Call Answer (Answer request) :=
  issue request done

@[simp]
theorem pure_eq_done (result : Result) :
    (pure result : Program Call Answer Result) = done result :=
  rfl

@[simp]
theorem done_bind (result : Result)
    (next : Result → Program Call Answer Value) :
    (done result : Program Call Answer Result) >>= next = next result :=
  rfl

@[simp]
theorem issue_bind (request : Call)
    (resume : Answer request → Program Call Answer Result)
    (next : Result → Program Call Answer Value) :
    issue request resume >>= next =
      issue request fun answer => resume answer >>= next :=
  rfl

@[simp]
theorem call_bind (request : Call)
    (next : Answer request → Program Call Answer Value) :
    call request >>= next = issue request next :=
  rfl

private theorem andThen_done (program : Program Call Answer Result) :
    program.andThen done = program := by
  induction program with
  | done result => rfl
  | issue request resume ih => exact congrArg (issue request) (funext ih)

private theorem andThen_assoc {Last : Type} (program : Program Call Answer Result)
    (first : Result → Program Call Answer Value)
    (second : Value → Program Call Answer Last) :
    (program.andThen first).andThen second =
      program.andThen fun result => (first result).andThen second := by
  induction program with
  | done result => rfl
  | issue request resume ih => exact congrArg (issue request) (funext ih)

instance : LawfulMonad (Program Call Answer) :=
  LawfulMonad.mk' _ andThen_done (fun _ _ => rfl) andThen_assoc

@[simp]
theorem map_done (function : Result → Value) (result : Result) :
    function <$> (done result : Program Call Answer Result) =
      done (function result) :=
  rfl

@[simp]
theorem map_issue (function : Result → Value) (request : Call)
    (resume : Answer request → Program Call Answer Result) :
    function <$> issue request resume =
      issue request fun answer => function <$> resume answer :=
  rfl

end Program

/-- An environment answers a call from the calls made before it.  `none` means
that the call never comes back. -/
def Environment (Call : Type) (Answer : Call → Type) :=
  List Call → (call : Call) → Option (Answer call)

/-- What an execution did: the calls it issued, and its result when every one
of them came back. -/
structure Execution (Call Result : Type) where
  result : Option Result
  calls : List Call

namespace Execution

variable {Call Result Value : Type}

/-- An execution that follows the given calls. -/
def after (earlier : List Call) (execution : Execution Call Result) :
    Execution Call Result :=
  ⟨execution.result, earlier ++ execution.calls⟩

@[simp]
theorem after_nil (execution : Execution Call Result) :
    execution.after [] = execution :=
  rfl

@[simp]
theorem after_mk (earlier calls : List Call) (result : Option Result) :
    Execution.after earlier ⟨result, calls⟩ = ⟨result, earlier ++ calls⟩ :=
  rfl

theorem after_after (first second : List Call)
    (execution : Execution Call Result) :
    (execution.after second).after first = execution.after (first ++ second) := by
  simp [after]

end Execution

namespace Program

variable {Call : Type} {Answer : Call → Type} {Result Value : Type}

/-- Execute a program after the calls of `history`. -/
def execute (environment : Environment Call Answer) :
    List Call → Program Call Answer Result → Execution Call Result
  | _, done result => ⟨some result, []⟩
  | history, issue request resume =>
      match environment history request with
      | none => ⟨none, [request]⟩
      | some answer =>
          ((resume answer).execute environment (history ++ [request])).after
            [request]

variable {environment : Environment Call Answer} {history : List Call}

@[simp]
theorem execute_done (result : Result) :
    (done result : Program Call Answer Result).execute environment history =
      ⟨some result, []⟩ :=
  rfl

theorem execute_issue (request : Call)
    (resume : Answer request → Program Call Answer Result) :
    (issue request resume).execute environment history =
      match environment history request with
      | none => ⟨none, [request]⟩
      | some answer =>
          ((resume answer).execute environment (history ++ [request])).after
            [request] := by
  rw [execute]

theorem execute_issue_some {request : Call} {answer : Answer request}
    (answered : environment history request = some answer)
    (resume : Answer request → Program Call Answer Result) :
    (issue request resume).execute environment history =
      ((resume answer).execute environment (history ++ [request])).after
        [request] := by
  rw [execute_issue, answered]

theorem execute_issue_none {request : Call}
    (unanswered : environment history request = none)
    (resume : Answer request → Program Call Answer Result) :
    (issue request resume).execute environment history = ⟨none, [request]⟩ := by
  rw [execute_issue, unanswered]

/-- A program of one call. -/
theorem execute_issue_done (request : Call) (result : Answer request → Result) :
    (issue request fun answer => done (result answer)).execute environment history =
      ⟨(environment history request).map result, [request]⟩ := by
  cases answered : environment history request with
  | none => rw [execute_issue_none answered, Option.map_none]
  | some answer =>
      rw [execute_issue_some answered, Option.map_some]
      rfl

/-- A program makes its first call, answered or not. -/
theorem mem_calls_issue (request : Call)
    (resume : Answer request → Program Call Answer Result) :
    request ∈ ((issue request resume).execute environment history).calls := by
  cases answered : environment history request with
  | none =>
      rw [execute_issue_none answered]
      exact List.mem_singleton_self request
  | some answer =>
      rw [execute_issue_some answered]
      exact List.mem_cons_self ..

/-- A program that returns hands its result to the program that follows it. -/
theorem execute_bind_some {program : Program Call Answer Result}
    {result : Result} {calls : List Call}
    (executed : program.execute environment history = ⟨some result, calls⟩)
    (next : Result → Program Call Answer Value) :
    (program >>= next).execute environment history =
      ((next result).execute environment (history ++ calls)).after calls := by
  induction program generalizing history calls with
  | done value =>
      simp only [execute_done, Execution.mk.injEq, Option.some.injEq] at executed
      obtain ⟨rfl, rfl⟩ := executed
      simp
  | issue request resume ih =>
      rw [issue_bind]
      cases answered : environment history request with
      | none =>
          rw [execute_issue_none answered] at executed
          simp at executed
      | some answer =>
          rw [execute_issue_some answered] at executed ⊢
          obtain ⟨resultEq, rfl⟩ := Execution.mk.inj executed
          have rest : (resume answer).execute environment (history ++ [request]) =
              ⟨some result, ((resume answer).execute environment
                (history ++ [request])).calls⟩ := by
            rw [← resultEq]
          rw [ih answer rest]
          simp [Execution.after]

/-- A program that never returns leaves the program that follows it unrun. -/
theorem execute_bind_none {program : Program Call Answer Result}
    {calls : List Call}
    (executed : program.execute environment history = ⟨none, calls⟩)
    (next : Result → Program Call Answer Value) :
    (program >>= next).execute environment history = ⟨none, calls⟩ := by
  induction program generalizing history calls with
  | done value => simp at executed
  | issue request resume ih =>
      rw [issue_bind]
      cases answered : environment history request with
      | none =>
          rw [execute_issue_none answered] at executed ⊢
          simpa using executed
      | some answer =>
          rw [execute_issue_some answered] at executed ⊢
          obtain ⟨resultEq, rfl⟩ := Execution.mk.inj executed
          have rest : (resume answer).execute environment (history ++ [request]) =
              ⟨none, ((resume answer).execute environment
                (history ++ [request])).calls⟩ := by
            rw [← resultEq]
          rw [ih answer rest]
          simp

/-- Every call a program can issue, whatever the answers, satisfies a
predicate. -/
def EveryCall (allowed : Call → Prop) : Program Call Answer Result → Prop
  | done _ => True
  | issue request resume =>
      allowed request ∧ ∀ answer, (resume answer).EveryCall allowed

@[simp]
theorem everyCall_done (allowed : Call → Prop) (result : Result) :
    (done result : Program Call Answer Result).EveryCall allowed :=
  trivial

theorem EveryCall.bind {allowed : Call → Prop}
    {program : Program Call Answer Result}
    {next : Result → Program Call Answer Value}
    (first : program.EveryCall allowed)
    (second : ∀ result, (next result).EveryCall allowed) :
    (program >>= next).EveryCall allowed := by
  induction program with
  | done result => exact second result
  | issue request resume ih => exact ⟨first.1, fun answer => ih answer (first.2 answer)⟩

theorem EveryCall.mono {allowed permitted : Call → Prop}
    {program : Program Call Answer Result} (every : program.EveryCall allowed)
    (weaken : ∀ request, allowed request → permitted request) :
    program.EveryCall permitted := by
  induction program with
  | done result => trivial
  | issue request resume ih =>
      exact ⟨weaken request every.1, fun answer => ih answer (every.2 answer)⟩

theorem everyCall_of_forall {allowed : Call → Prop} (all : ∀ request, allowed request)
    (program : Program Call Answer Result) : program.EveryCall allowed := by
  induction program with
  | done result => trivial
  | issue request resume ih => exact ⟨all request, ih⟩

/-- The calls of an execution are among those the program can issue. -/
theorem EveryCall.of_mem_calls {allowed : Call → Prop}
    {program : Program Call Answer Result} (every : program.EveryCall allowed)
    {request : Call} (member : request ∈ (program.execute environment history).calls) :
    allowed request := by
  induction program generalizing history with
  | done result => simp at member
  | issue first resume ih =>
      cases answered : environment history first with
      | none =>
          rw [execute_issue_none answered] at member
          rw [List.mem_singleton.mp member]
          exact every.1
      | some answer =>
          rw [execute_issue_some answered] at member
          rcases List.mem_cons.mp member with rfl | later
          · exact every.1
          · exact ih answer (every.2 answer) later

section Embed

variable {Outer : Type} {Reply : Outer → Type}

/-- A program whose calls are among those of a larger signature. -/
def embed (inject : Call → Outer)
    (answer : (request : Call) → Reply (inject request) → Answer request) :
    Program Call Answer Result → Program Outer Reply Result
  | done result => done result
  | issue request resume =>
      issue (inject request) fun reply => (resume (answer request reply)).embed inject answer

variable {inject : Call → Outer}
  {answer : (request : Call) → Reply (inject request) → Answer request}

@[simp]
theorem embed_bind (program : Program Call Answer Result)
    (next : Result → Program Call Answer Value) :
    (program >>= next).embed inject answer =
      program.embed inject answer >>= fun result => (next result).embed inject answer := by
  induction program with
  | done result => rfl
  | issue request resume ih =>
      exact congrArg (issue (inject request)) (funext fun reply => ih (answer request reply))

theorem EveryCall.embed {allowed : Call → Prop} {permitted : Outer → Prop}
    {program : Program Call Answer Result} (every : program.EveryCall allowed)
    (permit : ∀ request, allowed request → permitted (inject request)) :
    (program.embed inject answer).EveryCall permitted := by
  induction program with
  | done result => trivial
  | issue request resume ih =>
      exact ⟨permit request every.1, fun reply => ih (answer request reply) (every.2 _)⟩

end Embed

/-- `for _ in 0..rounds { body }` followed by `after`, in a function that the
body may return from by producing a value. -/
def forRounds (body : Program Call Answer (Option Result))
    (after : Program Call Answer Result) : Nat → Program Call Answer Result
  | 0 => after
  | rounds + 1 => do
      match ← body with
      | some result => pure result
      | none => forRounds body after rounds

/-- The calls of `count` rounds that all issue the same calls. -/
def repeatCalls (round : List Call) (count : Nat) : List Call :=
  (List.replicate count round).flatten

@[simp]
theorem repeatCalls_zero (round : List Call) : repeatCalls round 0 = [] :=
  rfl

theorem repeatCalls_succ (round : List Call) (count : Nat) :
    repeatCalls round (count + 1) = round ++ repeatCalls round count := by
  simp [repeatCalls, List.replicate_succ]

variable {body : Program Call Answer (Option Result)}
  {after : Program Call Answer Result} {round : List Call}

/-- A loop whose first `continued` rounds go on and whose next round returns. -/
theorem execute_forRounds_of_returns {rounds continued : Nat}
    {result : Result} {last : List Call} (within : continued < rounds)
    (goesOn : ∀ index < continued,
      body.execute environment (history ++ repeatCalls round index) =
        ⟨some none, round⟩)
    (returns : body.execute environment (history ++ repeatCalls round continued) =
      ⟨some (some result), last⟩) :
    (forRounds body after rounds).execute environment history =
      ⟨some result, repeatCalls round continued ++ last⟩ := by
  induction continued generalizing rounds history with
  | zero =>
      obtain ⟨rest, rfl⟩ : ∃ rest, rounds = rest + 1 := ⟨rounds - 1, by omega⟩
      simp only [repeatCalls_zero, List.append_nil] at returns
      rw [forRounds, execute_bind_some returns]
      simp
  | succ continued ih =>
      obtain ⟨rest, rfl⟩ : ∃ rest, rounds = rest + 1 := ⟨rounds - 1, by omega⟩
      have first := goesOn 0 (by omega)
      simp only [repeatCalls_zero, List.append_nil] at first
      rw [forRounds, execute_bind_some first]
      have later := @ih (history ++ round) rest (by omega)
        (fun index bound => by
          rw [List.append_assoc, ← repeatCalls_succ]
          exact goesOn (index + 1) (by omega))
        (by
          rw [List.append_assoc, ← repeatCalls_succ]
          exact returns)
      simp only [later, Execution.after_mk, repeatCalls_succ, List.append_assoc]

/-- A loop whose rounds all go on runs what follows it. -/
theorem execute_forRounds_of_exhausts {rounds : Nat}
    (goesOn : ∀ index < rounds,
      body.execute environment (history ++ repeatCalls round index) =
        ⟨some none, round⟩) :
    (forRounds body after rounds).execute environment history =
      (after.execute environment (history ++ repeatCalls round rounds)).after
        (repeatCalls round rounds) := by
  induction rounds generalizing history with
  | zero => simp [forRounds]
  | succ rounds ih =>
      have first := goesOn 0 (by omega)
      simp only [repeatCalls_zero, List.append_nil] at first
      rw [forRounds, execute_bind_some first]
      have later := @ih (history ++ round) (fun index bound => by
        rw [List.append_assoc, ← repeatCalls_succ]
        exact goesOn (index + 1) (by omega))
      simp only [later, Execution.after_after, repeatCalls_succ, List.append_assoc]

theorem EveryCall.forRounds {allowed : Call → Prop}
    (bodyCalls : body.EveryCall allowed) (afterCalls : after.EveryCall allowed)
    (rounds : Nat) : (forRounds body after rounds).EveryCall allowed := by
  induction rounds with
  | zero => exact afterCalls
  | succ rounds ih =>
      refine bodyCalls.bind fun outcome => ?_
      cases outcome with
      | none => exact ih
      | some result => exact everyCall_done allowed result

end Program

end Interaction
