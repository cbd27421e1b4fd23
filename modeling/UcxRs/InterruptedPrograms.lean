import UcxRs.InteractionProgram
import UcxRs.TransitionRuns

/-!
# Programs among the events of their surroundings

One thread runs operations on a state, one after the other.  An operation is a
program, and each of its calls changes the state when it is answered; between
two calls, events that the thread does not control change the state as well.

`Outline` annotates a program with assertions that no event invalidates, one
before each call, in the manner of a proof outline.  A system whose operations
have outlines keeps what the outlines promise in every state of every run.
-/

namespace InterruptedPrograms

open Interaction
open TransitionRuns

/-- The operations of a thread on a state, what their calls do to it, and what
events do. -/
structure System (State Op Event Call : Type) (Answer : Call → Type)
    (Result : Op → Type) where
  start : State → Op → Option State
  code : (op : Op) → Program Call Answer (Result op)
  perform : State → (call : Call) → Answer call → Option State
  occur : State → Event → Option State

/-- The state, and the operation that is running with the rest of its program. -/
structure Config (State Op Call : Type) (Answer : Call → Type) (Result : Op → Type) where
  state : State
  running : Option (Σ op, Program Call Answer (Result op))

inductive Label (Op Event Call : Type) (Answer : Call → Type) where
  | start (op : Op)
  | answer (reply : (call : Call) → Option (Answer call))
  | finish
  | occur (event : Event)

variable {State Op Event Call : Type} {Answer : Call → Type} {Result : Op → Type}

def Config.idle (state : State) : Config State Op Call Answer Result where
  state := state
  running := none

namespace System

variable (system : System State Op Event Call Answer Result)

/-- Answer the next call of a program. -/
def advance (state : State) (op : Op) (reply : (call : Call) → Option (Answer call)) :
    Program Call Answer (Result op) → Option (Config State Op Call Answer Result)
  | .done _ => none
  | .issue call resume => do
      let answer ← reply call
      let state ← system.perform state call answer
      some ⟨state, some ⟨op, resume answer⟩⟩

def step (config : Config State Op Call Answer Result) :
    Label Op Event Call Answer → Option (Config State Op Call Answer Result)
  | .start op =>
      match config.running with
      | some _ => none
      | none => do
          let state ← system.start config.state op
          some ⟨state, some ⟨op, system.code op⟩⟩
  | .answer reply =>
      match config.running with
      | none => none
      | some ⟨op, program⟩ => system.advance config.state op reply program
  | .finish =>
      match config.running with
      | some ⟨_, .done _⟩ => some (.idle config.state)
      | _ => none
  | .occur event => do
      let state ← system.occur config.state event
      some { config with state := state }

/-- No event invalidates the assertion. -/
def Stable (assertion : State → Prop) : Prop :=
  ∀ {state event next}, assertion state → system.occur state event = some next →
    assertion next

/-- A program that starts where `before` holds, keeps `during` up to its end, and
ends where `after` holds. -/
def Outline {Value : Type} (during : State → Prop) (before : State → Prop) :
    Program Call Answer Value → (Value → State → Prop) → Prop
  | .done value, after =>
      (∀ state, before state → during state) ∧ ∀ state, before state → after value state
  | .issue call resume, after =>
      (∀ state, before state → during state) ∧
      ∃ between : Answer call → State → Prop,
        (∀ answer, system.Stable (between answer)) ∧
        (∀ state answer next, before state → system.perform state call answer = some next →
          between answer next) ∧
        ∀ answer, Outline during (between answer) (resume answer) after

variable {system} {Value Last : Type} {during before : State → Prop}

theorem Outline.holds {program : Program Call Answer Value} {after : Value → State → Prop}
    (outline : system.Outline during before program after) {state : State}
    (holds : before state) : during state := by
  cases program with
  | done value => exact outline.1 state holds
  | issue call resume => exact outline.1 state holds

/-- Two programs in sequence meet in an assertion for each result of the first. -/
theorem Outline.bind {program : Program Call Answer Value}
    {next : Value → Program Call Answer Last} {middle : Value → State → Prop}
    {after : Last → State → Prop}
    (first : system.Outline during before program middle)
    (second : ∀ value, system.Outline during (middle value) (next value) after) :
    system.Outline during before (program >>= next) after := by
  induction program generalizing before with
  | done value =>
      have weaken : ∀ state, before state → middle value state := first.2
      have rest := second value
      rw [Program.done_bind]
      cases following : next value with
      | done last =>
          rw [following] at rest
          exact ⟨first.1, fun state holds => rest.2 state (weaken state holds)⟩
      | issue call resume =>
          rw [following] at rest
          obtain ⟨_, between, stable, answered, outlines⟩ := rest
          refine ⟨first.1, between, stable, ?_, outlines⟩
          intro state answer next holds
          exact answered state answer next (weaken state holds)
  | issue call resume ih =>
      obtain ⟨kept, between, stable, answered, outlines⟩ := first
      exact ⟨kept, between, stable, answered, fun answer => ih answer (outlines answer)⟩

/-- An assertion that no call of the program invalidates holds throughout. -/
theorem Outline.of_everyCall {allowed : Call → Prop} {program : Program Call Answer Value}
    (every : program.EveryCall allowed) (stable : system.Stable before)
    (kept : ∀ state, before state → during state)
    (preserved : ∀ {state call answer next}, allowed call → before state →
      system.perform state call answer = some next → before next) :
    system.Outline during before program (fun _ => before) := by
  induction program with
  | done value => exact ⟨kept, fun _ holds => holds⟩
  | issue call resume ih =>
      refine ⟨kept, fun _ => before, fun _ => stable, ?_, ?_⟩
      · intro state answer next holds performed
        exact preserved every.1 holds performed
      · intro answer
        exact ih answer (every.2 answer)

/-- Every operation has an outline from where `idle` holds back to there. -/
structure Verified (system : System State Op Event Call Answer Result) (idle : State → Prop)
    (during : Op → State → Prop) : Prop where
  idle_stable : system.Stable idle
  outline : ∀ op, ∃ before, system.Stable before ∧
    (∀ {state next}, idle state → system.start state op = some next → before next) ∧
    system.Outline (during op) before (system.code op) fun _ => idle

end System

/-- What holds in a state, depending on the operation that is running. -/
def Config.Holds (idle : State → Prop) (during : Op → State → Prop)
    (config : Config State Op Call Answer Result) : Prop :=
  match config.running with
  | none => idle config.state
  | some running => during running.1 config.state

namespace System

variable {system : System State Op Event Call Answer Result} {idle : State → Prop}
  {during : Op → State → Prop}

/-- The assertion of the outline that a configuration has arrived at. -/
def Outlined (system : System State Op Event Call Answer Result) (idle : State → Prop)
    (during : Op → State → Prop) (config : Config State Op Call Answer Result) : Prop :=
  match config.running with
  | none => idle config.state
  | some ⟨op, program⟩ => ∃ before, system.Stable before ∧ before config.state ∧
      system.Outline (during op) before program fun _ => idle

theorem Outlined.holds {config : Config State Op Call Answer Result}
    (outlined : system.Outlined idle during config) : config.Holds idle during := by
  obtain ⟨state, _ | ⟨op, program⟩⟩ := config
  · exact outlined
  · obtain ⟨before, _, holds, outline⟩ := outlined
    exact outline.holds holds

theorem Verified.outlined_step (verified : system.Verified idle during)
    {config next : Config State Op Call Answer Result}
    {label : Label Op Event Call Answer}
    (outlined : system.Outlined idle during config)
    (stepEq : system.step config label = some next) : system.Outlined idle during next := by
  obtain ⟨state, running⟩ := config
  cases label with
  | start op =>
      cases running with
      | some running => cases stepEq
      | none =>
          obtain ⟨started, startEq, stepEq⟩ := Option.bind_eq_some_iff.mp stepEq
          cases stepEq
          obtain ⟨before, stable, begins, outline⟩ := verified.outline op
          exact ⟨before, stable, begins outlined startEq, outline⟩
  | answer reply =>
      cases running with
      | none => cases stepEq
      | some running =>
          obtain ⟨op, _ | ⟨call, resume⟩⟩ := running
          · cases stepEq
          · obtain ⟨answer, _, stepEq⟩ := Option.bind_eq_some_iff.mp stepEq
            obtain ⟨performed, performEq, stepEq⟩ := Option.bind_eq_some_iff.mp stepEq
            cases stepEq
            obtain ⟨before, _, holds, _, between, stable, answered, outlines⟩ := outlined
            exact ⟨between answer, stable answer,
              answered state answer performed holds performEq, outlines answer⟩
  | finish =>
      obtain _ | ⟨op, value | ⟨call, resume⟩⟩ := running
      · cases stepEq
      · cases stepEq
        obtain ⟨before, _, holds, outline⟩ := outlined
        exact outline.2 state holds
      · cases stepEq
  | occur event =>
      obtain ⟨occurred, occurEq, stepEq⟩ := Option.bind_eq_some_iff.mp stepEq
      cases stepEq
      cases running with
      | none => exact verified.idle_stable outlined occurEq
      | some running =>
          obtain ⟨before, stable, holds, outline⟩ := outlined
          exact ⟨before, stable, stable holds occurEq, outline⟩

/-- In every state of every run, what the outlines promise holds. -/
theorem Verified.everyStep (verified : system.Verified idle during) {state : State}
    (holds : idle state) (run : List (Label Op Event Call Answer)) :
    EveryStep system.step (fun _ _ next => next.Holds idle during) (.idle state) run := by
  apply @everyStep_of_invariant _ _ _ (system.Outlined idle during)
  · intro config label next outlined stepEq
    exact verified.outlined_step outlined stepEq
  · intro config label next outlined
    exact outlined.holds
  · exact holds

end System

end InterruptedPrograms
