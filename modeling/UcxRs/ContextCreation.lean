import UcxRs.MemoryHandles
import UcxRs.NamedBuilders
import UcxRs.TransitionRuns

/-!
# Which contexts are created

`Context` is shared between threads on the ground that UCX was told to lock it:
`Context::new` refuses parameters without `mt_workers_shared`.  Whether they have
it is recorded three times, as a bit of the mask, as a C integer and as a `bool`,
and the gate of `Context::new` reads all three.  The three records agree after
any calls of the setters, so the gate lets through exactly the parameters whose
last setters gave a feature and sharing.
-/

namespace UcxRs

def ucpApiMajor : BitVec 32 := 1

def ucpApiMinor : BitVec 32 := 18

namespace Context

structure Config where
  handle : ConfigHandle
  deriving DecidableEq, Repr

def new (config : Config) (params : Params) : Ffi (Except Status Context) :=
  if params.handle.fieldMask &&& UcpParam.fieldFeatures = 0 ∨ params.handle.features = 0 then
    pure (.error .errInvalidParam)
  else if params.mtWorkersShared = false ∨
      params.handle.fieldMask &&& UcpParam.fieldMtWorkersShared = 0 ∨
      params.handle.mtWorkersShared = 0 then
    pure (.error .errInvalidParam)
  else do
    let (status, context) ←
      perform (.ucpInitVersion ucpApiMajor ucpApiMinor params.handle config.handle)
    pure ((statusToResult status).map fun _ => ⟨context⟩)

end Context

namespace ContextCreation

open Interaction (Environment Execution)
open Interaction.Program
open MaskedFields
open TransitionRuns (EveryStep everyStep_of_invariant)

def initCall (config : Context.Config) (params : Context.Params) : Call :=
  .ucpInitVersion ucpApiMajor ucpApiMinor params.handle config.handle

def initResult (answer : UcsStatus × ContextHandle) : Except Status Context :=
  (statusToResult answer.1).map fun _ => ⟨answer.2⟩

/-- UCX sees a feature and a request to lock the context. -/
structure Shareable (handle : UcpParams) : Prop where
  featuresShown : handle.fieldMask &&& UcpParam.fieldFeatures ≠ 0
  features : handle.features ≠ 0
  sharedShown : handle.fieldMask &&& UcpParam.fieldMtWorkersShared ≠ 0
  shared : handle.mtWorkersShared ≠ 0

/-- What `Context::new` lets through. -/
def Gate (params : Context.Params) : Prop :=
  Shareable params.handle ∧ params.mtWorkersShared = true

section New

variable {config : Context.Config} {params : Context.Params} {oracle : Environment Call Answer}

theorem execute_new_of_gate (gate : Gate params) :
    (Context.new config params).execute oracle [] =
      ⟨(oracle [] (initCall config params)).map initResult, [initCall config params]⟩ := by
  obtain ⟨shareable, bool⟩ := gate
  have featured : ¬ (params.handle.fieldMask &&& UcpParam.fieldFeatures = 0 ∨
      params.handle.features = 0) :=
    not_or.mpr ⟨shareable.featuresShown, shareable.features⟩
  have shared : ¬ (params.mtWorkersShared = false ∨
      params.handle.fieldMask &&& UcpParam.fieldMtWorkersShared = 0 ∨
      params.handle.mtWorkersShared = 0) := by
    rw [bool]
    exact not_or.mpr ⟨Bool.noConfusion, not_or.mpr ⟨shareable.sharedShown, shareable.shared⟩⟩
  unfold Context.new
  rw [if_neg featured, if_neg shared]
  exact execute_issue_done _ _

theorem execute_new_of_not_gate (closed : ¬ Gate params) :
    (Context.new config params).execute oracle [] = ⟨some (.error .errInvalidParam), []⟩ := by
  unfold Context.new
  split
  case isTrue unfeatured => rfl
  case isFalse featured =>
    split
    case isTrue unshared => rfl
    case isFalse shared =>
      obtain ⟨featuresShown, features⟩ := not_or.mp featured
      obtain ⟨bool, fields⟩ := not_or.mp shared
      obtain ⟨sharedShown, shared⟩ := not_or.mp fields
      have gate : Gate params :=
        ⟨⟨featuresShown, features, sharedShown, shared⟩, Bool.of_not_eq_false bool⟩
      exact absurd gate closed

end New

open Context (ParamsBuilder)
open Context.ParamsBuilder (Setter)

/-- The C integer and the `bool` agree. -/
def Agrees (builder : ParamsBuilder) : Prop :=
  builder.sharedMtWorkers = decide (builder.uninitHandle.mtWorkersShared ≠ 0)

theorem agrees_new : Agrees ParamsBuilder.new := by
  unfold Agrees
  decide

theorem Agrees.apply {builder : ParamsBuilder} (agrees : Agrees builder) (setter : Setter) :
    Agrees (builder.apply setter) := by
  cases setter with
  | mtWorkersShared shared => rfl
  | name allocation name =>
      rw [ParamsBuilder.apply_name]
      cases CString.new allocation.val name <;> exact agrees
  | _ => exact agrees

theorem Agrees.foldl {builder : ParamsBuilder} (agrees : Agrees builder)
    (setters : List Setter) : Agrees (setters.foldl ParamsBuilder.apply builder) := by
  induction setters generalizing builder with
  | nil => exact agrees
  | cons setter setters ih => exact ih (agrees.apply setter)

/-- The last argument of `features`, if it was called. -/
def lastFeatures (setters : List Setter) : Option (BitVec 64) :=
  lastSet (fun setter => ParamsBuilder.sets setter .features) setters

/-- The last argument of `mt_workers_shared`, if it was called. -/
def lastShared (setters : List Setter) : Option (BitVec 32) :=
  lastSet (fun setter => ParamsBuilder.sets setter .mtWorkersShared) setters

/-- The last features are not empty, and the last argument for sharing is not zero. -/
def AsksForSharing (setters : List Setter) : Prop :=
  (∃ features, lastFeatures setters = some features ∧ features ≠ 0) ∧
    ∃ shared, lastShared setters = some shared ∧ shared ≠ 0

/-- The parameters of a new builder after setter calls. -/
def builtParams (setters : List Setter) : Context.Params :=
  (setters.foldl ParamsBuilder.apply ParamsBuilder.new).build.1

theorem shown_iff {field : Context.Field} (setters : List Setter)
    (condition : Context.Field.Value field → Prop) :
    (ParamsBuilder.layout.Shows (builtParams setters) field ∧
      condition (ParamsBuilder.layout.value (builtParams setters) field)) ↔
        ∃ value, lastSet (fun setter => ParamsBuilder.sets setter field) setters = some value ∧
          condition value := by
  have shown : ParamsBuilder.layout.view (builtParams setters) field =
      lastSet (fun setter => ParamsBuilder.sets setter field) setters :=
    ParamsBuilder.showsLastSet setters field
  rw [← shown]
  constructor
  · rintro ⟨shows, holds⟩
    exact ⟨_, if_pos shows, holds⟩
  · rintro ⟨value, viewed, holds⟩
    obtain ⟨shows, same⟩ := Option.ite_none_right_eq_some.mp viewed
    cases same
    exact ⟨shows, holds⟩

theorem gate_builtParams_iff (setters : List Setter) :
    Gate (builtParams setters) ↔ AsksForSharing setters := by
  have features := @shown_iff .features setters (· ≠ 0)
  have shared := @shown_iff .mtWorkersShared setters (· ≠ 0)
  have agrees : Agrees (setters.foldl ParamsBuilder.apply ParamsBuilder.new) :=
    agrees_new.foldl setters
  have bool : (builtParams setters).mtWorkersShared =
      decide ((builtParams setters).handle.mtWorkersShared ≠ 0) := by
    unfold builtParams
    rw [ParamsBuilder.build_fst]
    exact agrees
  unfold AsksForSharing lastFeatures lastShared
  rw [← features, ← shared]
  constructor
  · rintro ⟨shareable, _⟩
    exact ⟨⟨shareable.featuresShown, shareable.features⟩,
      shareable.sharedShown, shareable.shared⟩
  · rintro ⟨⟨featuresShown, features⟩, sharedShown, shared⟩
    refine ⟨⟨featuresShown, features, sharedShown, shared⟩, ?_⟩
    rw [bool]
    exact decide_eq_true shared

/-- A context and the calls that `Context::new` made for it. -/
structure Created where
  context : Context
  calls : List Call
  deriving DecidableEq

structure World where
  builders : List ParamsBuilder
  params : List Context.Params
  contexts : List Created

namespace World

def initial : World where
  builders := []
  params := []
  contexts := []

/-- The context of a creation that succeeded. -/
def addContext (world : World) : Execution Call (Except Status Context) → World
  | ⟨some (.ok context), calls⟩ =>
      { world with contexts := world.contexts ++ [⟨context, calls⟩] }
  | _ => world

end World

/-- Builders, parameters and contexts are given by their index; dropping the first
two takes no part in what is created. -/
inductive Label where
  | newBuilder
  | set (builder : Nat) (setter : Setter)
  | build (builder : Nat)
  | newContext (params : Nat) (config : Context.Config) (oracle : Environment Call Answer)
  | dropContext (context : Nat)

def step (world : World) : Label → Option World
  | .newBuilder => some { world with builders := world.builders ++ [ParamsBuilder.new] }
  | .set index setter => do
      let builder ← world.builders[index]?
      some { world with builders := world.builders.set index (builder.apply setter) }
  | .build index => do
      let builder ← world.builders[index]?
      some { world with
        builders := world.builders.set index builder.build.2
        params := world.params ++ [builder.build.1] }
  | .newContext index config oracle => do
      let params ← world.params[index]?
      some (world.addContext ((Context.new config params).execute oracle []))
  | .dropContext index => do
      let _ ← world.contexts[index]?
      some { world with contexts := world.contexts.eraseIdx index }

/-- The context was initialised by UCX with parameters that it can share. -/
def InitialisedShareable (created : Created) : Prop :=
  ∃ config params, created.calls = [initCall config params] ∧ Shareable params.handle

/-- Every context that exists may be shared. -/
def AllShareable (world : World) : Prop :=
  ∀ created ∈ world.contexts, InitialisedShareable created

theorem AllShareable.addContext {world : World} (all : AllShareable world)
    (config : Context.Config) (params : Context.Params) (oracle : Environment Call Answer) :
    AllShareable (world.addContext ((Context.new config params).execute oracle [])) := by
  by_cases gate : Gate params
  · rw [execute_new_of_gate gate]
    rcases (oracle [] (initCall config params)).map initResult with _ | error | context
    · exact all
    · exact all
    · intro created member
      rcases List.mem_append.mp member with before | new
      · exact all created before
      · rw [List.mem_singleton.mp new]
        exact ⟨config, params, rfl, gate.1⟩
  · rw [execute_new_of_not_gate gate]
    exact all

theorem AllShareable.step {world next : World} {label : Label} (all : AllShareable world)
    (stepEq : step world label = some next) : AllShareable next := by
  cases label with
  | newBuilder =>
      cases stepEq
      exact all
  | set index setter =>
      obtain ⟨builder, _, stepEq⟩ := Option.bind_eq_some_iff.mp stepEq
      cases stepEq
      exact all
  | build index =>
      obtain ⟨builder, _, stepEq⟩ := Option.bind_eq_some_iff.mp stepEq
      cases stepEq
      exact all
  | newContext index config oracle =>
      obtain ⟨params, _, stepEq⟩ := Option.bind_eq_some_iff.mp stepEq
      cases stepEq
      exact all.addContext config params oracle
  | dropContext index =>
      obtain ⟨created, _, stepEq⟩ := Option.bind_eq_some_iff.mp stepEq
      cases stepEq
      exact fun created member => all created (List.mem_of_mem_eraseIdx member)

/-- `Context::new` initialises a context exactly for parameters whose setters asked
for sharing, so every context that ever exists may be shared. -/
theorem only_shareable_contexts :
    (∀ (setters : List Setter) (config : Context.Config) (oracle : Environment Call Answer),
      let execution := (Context.new config (builtParams setters)).execute oracle []
      (AsksForSharing setters →
        execution.calls = [initCall config (builtParams setters)] ∧
        execution.result =
          (oracle [] (initCall config (builtParams setters))).map initResult) ∧
      (¬ AsksForSharing setters →
        execution.calls = [] ∧ execution.result = some (.error .errInvalidParam))) ∧
    ∀ run, EveryStep step (fun _ _ next => AllShareable next) World.initial run := by
  constructor
  · intro setters config oracle execution
    constructor
    · intro asks
      have executed : execution = _ :=
        execute_new_of_gate ((gate_builtParams_iff setters).mpr asks)
      rw [executed]
      exact ⟨rfl, rfl⟩
    · intro asksNot
      have executed : execution = _ :=
        execute_new_of_not_gate ((gate_builtParams_iff setters).not.mpr asksNot)
      rw [executed]
      exact ⟨rfl, rfl⟩
  · refine fun run => everyStep_of_invariant AllShareable.step (fun all => all) ?_ run
    exact fun created member => absurd member List.not_mem_nil

end ContextCreation

end UcxRs
