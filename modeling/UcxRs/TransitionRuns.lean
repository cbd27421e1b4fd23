import Mathlib.Data.List.Basic

/-!
# Runs of labelled transition systems

A system is a partial step function: `step state label` is the state after an
enabled label, and `none` when the label is not enabled.  A run is a list of
labels.  Everything an environment may choose (the answers of a foreign
library, the scheduling of threads) is part of the label, so a run fixes the
states it visits.

The two induction rules of this file are the ones that safety proofs use: an
invariant that every step preserves holds at the end of every run, and an
invariant that is preserved by the steps meeting a condition holds along every
run whose steps all meet it.
-/

namespace TransitionRuns

variable {State Label : Type*}

/-- The state at the end of a run, when every label of it is enabled. -/
def runFrom (step : State → Label → Option State) :
    State → List Label → Option State
  | state, [] => some state
  | state, label :: labels =>
      (step state label).bind fun next => runFrom step next labels

/-- The states that some run from `initial` ends in. -/
def Reachable (step : State → Label → Option State) (initial final : State) :
    Prop :=
  ∃ run, runFrom step initial run = some final

/-- Every enabled step of a run satisfies a relation between the state before
it, its label and the state after it.  A run stops at its first label that is
not enabled. -/
def EveryStep (step : State → Label → Option State)
    (condition : State → Label → State → Prop) : State → List Label → Prop
  | _, [] => True
  | state, label :: labels =>
      ∀ next, step state label = some next →
        condition state label next ∧ EveryStep step condition next labels

/-- A condition that can be decided for each step can be decided for a run. -/
def decideEveryStep (step : State → Label → Option State)
    (condition : State → Label → State → Prop)
    (decideStep : ∀ state label next, Decidable (condition state label next)) :
    ∀ state run, Decidable (EveryStep step condition state run)
  | _, [] => .isTrue trivial
  | state, label :: labels =>
      match stepEq : step state label with
      | none => .isTrue fun next enabled => by
          rw [stepEq] at enabled
          cases enabled
      | some next =>
          match decideStep state label next,
              decideEveryStep step condition decideStep next labels with
          | .isTrue now, .isTrue later => .isTrue fun after enabled => by
              rw [stepEq] at enabled
              cases enabled
              exact ⟨now, later⟩
          | .isFalse now, _ => .isFalse fun every => now (every next stepEq).1
          | _, .isFalse later => .isFalse fun every => later (every next stepEq).2

instance (step : State → Label → Option State)
    (condition : State → Label → State → Prop)
    [decideStep : ∀ state label next, Decidable (condition state label next)]
    (state : State) (run : List Label) :
    Decidable (EveryStep step condition state run) :=
  decideEveryStep step condition decideStep state run

variable {step : State → Label → Option State}

theorem runFrom_cons (state : State) (label : Label) (labels : List Label) :
    runFrom step state (label :: labels) =
      (step state label).bind fun next => runFrom step next labels :=
  rfl

/-- A run may be continued. -/
theorem runFrom_append {state middle : State} {first : List Label}
    (runEq : runFrom step state first = some middle) (second : List Label) :
    runFrom step state (first ++ second) = runFrom step middle second := by
  induction first generalizing state with
  | nil =>
      cases runEq
      rfl
  | cons label labels ih =>
      rw [runFrom_cons] at runEq
      obtain ⟨next, stepEq, restEq⟩ := Option.bind_eq_some_iff.mp runEq
      rw [List.cons_append, runFrom_cons, stepEq]
      exact ih restEq

theorem runFrom_singleton (state : State) (label : Label) :
    runFrom step state [label] = step state label :=
  Option.bind_fun_some _

/-- An invariant preserved by every step holds at the end of every run. -/
theorem invariant_of_run {invariant : State → Prop}
    (preserved : ∀ {state label next}, invariant state →
      step state label = some next → invariant next)
    {state final : State} {run : List Label}
    (runEq : runFrom step state run = some final) (holds : invariant state) :
    invariant final := by
  induction run generalizing state with
  | nil =>
      cases runEq
      exact holds
  | cons label labels ih =>
      rw [runFrom_cons] at runEq
      obtain ⟨next, stepEq, restEq⟩ := Option.bind_eq_some_iff.mp runEq
      exact ih restEq (preserved holds stepEq)

/-- An invariant of the initial state preserved by every step holds in every
reachable state. -/
theorem Reachable.invariant {invariant : State → Prop}
    (preserved : ∀ {state label next}, invariant state →
      step state label = some next → invariant next)
    {initial final : State} (reached : Reachable step initial final)
    (holds : invariant initial) : invariant final := by
  obtain ⟨run, runEq⟩ := reached
  exact invariant_of_run preserved runEq holds

/-- Along a run whose steps all meet a condition it is enough that those steps
preserve the invariant. -/
theorem invariant_of_guarded_run {invariant : State → Prop}
    {condition : State → Label → State → Prop}
    (preserved : ∀ {state label next}, invariant state →
      condition state label next → step state label = some next →
      invariant next)
    {state final : State} {run : List Label}
    (guarded : EveryStep step condition state run)
    (runEq : runFrom step state run = some final) (holds : invariant state) :
    invariant final := by
  induction run generalizing state with
  | nil =>
      cases runEq
      exact holds
  | cons label labels ih =>
      rw [runFrom_cons] at runEq
      obtain ⟨next, stepEq, restEq⟩ := Option.bind_eq_some_iff.mp runEq
      obtain ⟨now, later⟩ := guarded next stepEq
      exact ih later restEq (preserved holds now stepEq)

/-- What follows from the invariant holds after every step of such a run. -/
theorem everyStep_of_guarded_invariant {invariant : State → Prop}
    {condition property : State → Label → State → Prop}
    (preserved : ∀ {state label next}, invariant state →
      condition state label next → step state label = some next →
      invariant next)
    (enough : ∀ {state label next}, invariant next → property state label next)
    {state : State} {run : List Label}
    (guarded : EveryStep step condition state run) (holds : invariant state) :
    EveryStep step property state run := by
  induction run generalizing state with
  | nil => trivial
  | cons label labels ih =>
      intro next stepEq
      obtain ⟨now, later⟩ := guarded next stepEq
      have after := preserved holds now stepEq
      exact ⟨enough after, ih later after⟩

/-- What every step from a state of the invariant does is done by every step of a
run. -/
theorem everyStep_of_invariant_before {invariant : State → Prop}
    {property : State → Label → State → Prop}
    (preserved : ∀ {state label next}, invariant state →
      step state label = some next → invariant next)
    (enough : ∀ {state label next}, invariant state →
      step state label = some next → property state label next)
    {state : State} (holds : invariant state) (run : List Label) :
    EveryStep step property state run := by
  induction run generalizing state with
  | nil => trivial
  | cons label labels ih =>
      intro next stepEq
      exact ⟨enough holds stepEq, ih (preserved holds stepEq)⟩

/-- What follows from an invariant of every step holds after every step of a run. -/
theorem everyStep_of_invariant {invariant : State → Prop}
    {property : State → Label → State → Prop}
    (preserved : ∀ {state label next}, invariant state →
      step state label = some next → invariant next)
    (enough : ∀ {state label next}, invariant next → property state label next)
    {state : State} (holds : invariant state) (run : List Label) :
    EveryStep step property state run :=
  everyStep_of_invariant_before preserved
    (fun holds stepEq => enough (preserved holds stepEq)) holds run

theorem EveryStep.mono {condition weaker : State → Label → State → Prop} {state : State}
    {run : List Label} (everyStep : EveryStep step condition state run)
    (weaken : ∀ {state label next}, condition state label next → weaker state label next) :
    EveryStep step weaker state run := by
  induction run generalizing state with
  | nil => trivial
  | cons label labels ih =>
      intro next stepEq
      obtain ⟨now, later⟩ := everyStep next stepEq
      exact ⟨weaken now, ih later⟩

/-- The condition holds of the step after any enabled beginning of the run. -/
theorem EveryStep.of_split {condition : State → Label → State → Prop}
    {state middle next : State} {first : List Label} {label : Label}
    {rest : List Label}
    (everyStep : EveryStep step condition state (first ++ label :: rest))
    (firstEq : runFrom step state first = some middle)
    (stepEq : step middle label = some next) : condition middle label next := by
  induction first generalizing state with
  | nil =>
      cases firstEq
      exact (everyStep next stepEq).1
  | cons earlier labels ih =>
      rw [runFrom_cons] at firstEq
      obtain ⟨after, earlierEq, restEq⟩ := Option.bind_eq_some_iff.mp firstEq
      exact ih (everyStep after earlierEq).2 restEq

/-- Two step conditions agree along every run when they agree wherever the
invariant holds and the steps that meet the first one preserve the invariant. -/
theorem everyStep_congr_of_guarded_invariant {invariant : State → Prop}
    {first second : State → Label → State → Prop}
    (preserved : ∀ {state label next}, invariant state → first state label next →
      step state label = some next → invariant next)
    (agree : ∀ {state label next}, invariant state →
      step state label = some next →
      (first state label next ↔ second state label next))
    {state : State} (holds : invariant state) (run : List Label) :
    EveryStep step first state run ↔ EveryStep step second state run := by
  induction run generalizing state with
  | nil => exact Iff.rfl
  | cons label labels ih =>
      refine forall_congr' fun next => forall_congr' fun stepEq => ?_
      constructor
      · rintro ⟨now, later⟩
        exact ⟨(agree holds stepEq).mp now, (ih (preserved holds now stepEq)).mp later⟩
      · rintro ⟨now, later⟩
        have first := (agree holds stepEq).mpr now
        exact ⟨first, (ih (preserved holds first stepEq)).mpr later⟩

/-- Two step conditions that agree wherever the invariant holds agree along
every run. -/
theorem everyStep_congr_of_invariant {invariant : State → Prop}
    {first second : State → Label → State → Prop}
    (preserved : ∀ {state label next}, invariant state →
      step state label = some next → invariant next)
    (agree : ∀ {state label next}, invariant state →
      step state label = some next →
      (first state label next ↔ second state label next))
    {state : State} (holds : invariant state) (run : List Label) :
    EveryStep step first state run ↔ EveryStep step second state run :=
  everyStep_congr_of_guarded_invariant (fun holds _ => preserved holds) agree holds run

/-- Two step conditions that agree on every step agree along every run. -/
theorem everyStep_congr {first second : State → Label → State → Prop}
    (agree : ∀ {state label next}, step state label = some next →
      (first state label next ↔ second state label next))
    (state : State) (run : List Label) :
    EveryStep step first state run ↔ EveryStep step second state run :=
  @everyStep_congr_of_invariant _ _ _ (fun _ => True) _ _
    (fun _ _ => trivial) (fun _ => agree) state trivial run

/-- A system refines another one if each of its steps is matched by a run of the other:
then so is each of its runs. -/
theorem everyStep_refines {Abstract Action : Type*}
    {abstractStep : Abstract → Action → Option Abstract}
    {related : State → Abstract → Prop}
    (matched : ∀ {state label next abstract}, related state abstract →
      step state label = some next →
        ∃ actions final, runFrom abstractStep abstract actions = some final ∧ related next final)
    {state : State} {abstract : Abstract} (holds : related state abstract) (run : List Label) :
    EveryStep step (fun _ _ next => ∃ actions final,
      runFrom abstractStep abstract actions = some final ∧ related next final) state run := by
  refine @everyStep_of_invariant _ _ step (fun next => ∃ actions final,
    runFrom abstractStep abstract actions = some final ∧ related next final) _ ?_ id state
      ⟨[], abstract, rfl, holds⟩ run
  rintro before label next ⟨earlier, middle, earlierEq, relatedBefore⟩ stepEq
  obtain ⟨later, final, laterEq, relatedNext⟩ := matched relatedBefore stepEq
  exact ⟨earlier ++ later, final, (runFrom_append earlierEq later).trans laterEq, relatedNext⟩

/-- A state with the events of the run up to it. -/
structure Recorded (State Event : Type*) where
  state : State
  events : List Event

/-- The steps of a system, which record what is observed of each. -/
def recording {Event : Type*} (step : State → Label → Option State)
    (observe : State → Label → List Event) (recorded : Recorded State Event) (label : Label) :
    Option (Recorded State Event) :=
  (step recorded.state label).map fun next =>
    ⟨next, recorded.events ++ observe recorded.state label⟩

end TransitionRuns
