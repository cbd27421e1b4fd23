import UcxRs.ContextValues

/-!
# Values that must not outlive their context

A `Worker` and a `MemHandle` keep handles of UCX, not a borrow of the `Context` that they
were created from, so the language lets them outlive it.  `ucp_cleanup` does not know of
them: it ends the context and everything in it, and UCX may give the same handles out
again.

The tables of UCX follow its calls here, one by one.  No drop and no method checks
anything before it calls, so what UCX is given is right exactly as long as the context of
the value is there; the documented order of drops is enough for that.
-/

namespace UcxRs

namespace ContextLifetimes

open ContextValues
open Interaction.Program
open ScopedHandles
open TransitionRuns (EveryStep everyStep_of_invariant_before)

/-- The tables of UCX, the contexts by number, and the workers and memory by slot. -/
abbrev World : Type := Values Context Value ContextHandle Object

/-- Every step runs with answers of UCX of its own. -/
inductive Label where
  | newContext (config : Context.Config) (params : Context.Params) (oracle : Oracle)
  | dropContext (number : Nat) (oracle : Oracle)
  | create (number slot : Nat) (creation : Creation) (oracle : Oracle)
  | call (slot : Nat) (method : Method) (oracle : Oracle)
  | pack (number slot : Nat) (packing : Packing) (oracle : Oracle)
  | dropValue (slot : Nat) (oracle : Oracle)

/-- The context of a creation that succeeded; UCX gives out no handle of something that is
open. -/
def addContext (world : World) : Except Status Context → Option World
  | .ok context =>
      if world.tables.scopes context.handle = none then
        some (Values.addKeeper contextHolding world context)
      else none
  | .error _ => some world

def addCreated (world : World) (number slot : Nat) :
    Except Status Value → Option World
  | .ok value =>
      if world.owned slot = none ∧ world.isFresh value.object then
        some (Values.addValue contextHolding world number slot value)
      else none
  | .error _ => some world

def step (world : World) : Label → Option World
  | .newContext config params oracle => do
      let (result, world) ←
        world.run contextInterface (ofFfi (Context.new config params)) oracle
      addContext world result
  | .dropContext number oracle => do
      let context ← world.keepers number
      let (_, world) ← world.run contextInterface context.drop oracle
      some (world.removeKeeper number)
  | .create number slot creation oracle => do
      let context ← world.keepers number
      let (result, world) ← world.run contextInterface (creation.program context) oracle
      addCreated world number slot result
  | .call slot method oracle => do
      let owned ← world.owned slot
      let program ← method.program owned.value
      let (_, world) ← world.run contextInterface program oracle
      some world
  | .pack number slot packing oracle => do
      let context ← world.keepers number
      let owned ← world.owned slot
      let program ← packing.program context owned.value
      let (_, world) ← world.run contextInterface program oracle
      some world
  | .dropValue slot oracle => do
      let owned ← world.owned slot
      let (_, world) ← world.run contextInterface owned.value.drop oracle
      some (world.removeValue slot)

/-- The calls of a program are served, the objects being those of this context. -/
def ServesWell {Result : Type} (world : World) (context : ContextHandle) (number : Nat)
    (program : ContextCode Result) (oracle : Oracle) : Prop :=
  contextInterface.Served context number world.tables (program.execute oracle []).calls

/-- Whatever a step gives to UCX is open and belongs to the context that the value of the
step was created from. -/
def GivesOpen (world : World) : Label → Prop
  | .newContext config params oracle => ∀ context number,
      ServesWell world context number (ofFfi (Context.new config params)) oracle
  | .dropContext number oracle => ∀ context, world.keepers number = some context →
      ServesWell world context.handle number context.drop oracle
  | .create number _ creation oracle => ∀ context, world.keepers number = some context →
      ServesWell world context.handle number (creation.program context) oracle
  | .call slot method oracle => ∀ owned program, world.owned slot = some owned →
      method.program owned.value = some program →
        ServesWell world owned.value.context owned.number program oracle
  | .pack number slot packing oracle => ∀ context owned program,
      world.keepers number = some context → world.owned slot = some owned →
        packing.program context owned.value = some program →
          ServesWell world owned.value.context owned.number program oracle
  | .dropValue slot oracle => ∀ owned, world.owned slot = some owned →
      ServesWell world owned.value.context owned.number owned.value.drop oracle

/-- A worker or a memory handle is used and dropped before the context that it was
created from, and a key packed with that context. -/
def KeepsContext (world : World) : Label → Prop
  | .call slot _ _ => ∀ owned, world.owned slot = some owned →
      (world.keepers owned.number).isSome
  | .dropValue slot _ => ∀ owned, world.owned slot = some owned →
      (world.keepers owned.number).isSome
  | .pack number slot _ _ => ∀ owned, world.owned slot = some owned → number = owned.number
  | _ => True

/-- The documented order: a context is dropped after all its workers and memory.  Keys are
packed with the context of their memory, as in `KeepsContext`. -/
def DropsContextLast (world : World) : Label → Prop
  | .dropContext number _ => ∀ slot owned, world.owned slot = some owned →
      owned.number ≠ number
  | .pack number slot _ _ => ∀ owned, world.owned slot = some owned → number = owned.number
  | _ => True

/-- A drop of a worker or a memory handle gives UCX nothing but the handles of the value,
and ends its object with the last call. -/
def DropsItself (world : World) : Label → Prop
  | .dropValue slot oracle => ∀ owned, world.owned slot = some owned →
      owned.value.EndsItself (owned.value.drop.execute oracle []).calls
  | _ => True

def view (world : World) : ScopedHandles.World ContextHandle Object :=
  Values.view contextHolding world

/-- What a creation does to the handles: one that fails has used its context, if it has
called UCX at all. -/
def seenCreation (number slot : Nat) (execution : Interaction.Execution ContextCall
    (Except Status Value)) : Option (ScopedHandles.Label ContextHandle Object) :=
  match execution.result with
  | some (.ok value) => some (.openObject number slot value.object)
  | _ => if execution.calls.isEmpty then none else some (.useScope number)

/-- What a step does to the handles. -/
def seen (world : World) : Label → Option (ScopedHandles.Label ContextHandle Object)
  | .newContext config params oracle =>
      match ((ofFfi (Context.new config params)).execute oracle []).result with
      | some (.ok context) => some (.openScope context.handle)
      | _ => none
  | .dropContext number _ => some (.dropScope number)
  | .create number slot creation oracle =>
      (world.keepers number).bind fun context =>
        seenCreation number slot ((creation.program context).execute oracle [])
  | .call slot _ _ => some (.use slot)
  | .pack number slot _ _ => some (.join number slot)
  | .dropValue slot _ => some (.dropObject slot)

section Simulation

variable {world next : World}

theorem dropContext_calls (context : Context) (oracle : Oracle) :
    (context.drop.execute oracle []).calls = [.ucpCleanup context.handle] := by
  have cleans : context.drop = .issue (.ucpCleanup context.handle) fun _ => .done () := rfl
  rw [cleans, execute_issue_done]

theorem newContext_quiet (config : Context.Config) (params : Context.Params) :
    (ofFfi (Context.new config params)).EveryCall (Quiet []) := by
  have quiet : (Context.new config params).EveryCall fun call => Quiet [] (.ucp call) := by
    unfold Context.new
    split
    case isTrue unfeatured => exact everyCall_done _ _
    case isFalse featured =>
      split
      case isTrue unshared => exact everyCall_done _ _
      case isFalse shared => exact ⟨⟨rfl, .inl rfl⟩, fun _ => everyCall_done _ _⟩
  exact quiet.embed fun _ => id

theorem simulates : Simulates step view seen := by
  intro world label next moved
  cases label with
  | newContext config params oracle =>
      obtain ⟨⟨result, between⟩, ran, added⟩ := Option.bind_eq_some_iff.mp moved
      obtain ⟨resultEq, rfl⟩ := Values.run_of_quiet (newContext_quiet config params) ran
      cases result with
      | error error =>
          cases added
          exact .inl ⟨by simp only [seen, resultEq], rfl⟩
      | ok context =>
          obtain ⟨fresh, added⟩ := Option.ite_none_right_eq_some.mp added
          cases added
          exact .inr ⟨.openScope context.handle, by simp only [seen, resultEq],
            Values.view_addKeeper fresh⟩
  | dropContext number oracle =>
      obtain ⟨context, found, rest⟩ := Option.bind_eq_some_iff.mp moved
      obtain ⟨⟨result, between⟩, ran, isNext⟩ := Option.bind_eq_some_iff.mp rest
      cases isNext
      obtain ⟨value, -, same⟩ := Option.map_eq_some_iff.mp ran
      cases same
      rw [dropContext_calls]
      exact .inr ⟨_, rfl, Values.view_dropKeeper found⟩
  | create number slot creation oracle =>
      obtain ⟨context, found, rest⟩ := Option.bind_eq_some_iff.mp moved
      obtain ⟨⟨result, between⟩, ran, added⟩ := Option.bind_eq_some_iff.mp rest
      have creates := creation.creates context
      obtain ⟨resultEq, rfl⟩ := Values.run_of_quiet creates.quiet ran
      have isSeen : seen between (.create number slot creation oracle) =
          seenCreation number slot ((creation.program context).execute oracle []) := by
        simp only [seen, found, Option.bind_some]
      rw [isSeen]
      unfold seenCreation
      rw [resultEq]
      cases result with
      | error error =>
          cases added
          rcases creates.execution oracle with ⟨noCalls, -⟩ | ⟨call, calls, -, -, -⟩
          · exact .inl ⟨by simp [noCalls], rfl⟩
          · exact .inr ⟨.useScope number, by simp [calls], Values.view_useScope found⟩
      | ok value =>
          obtain ⟨⟨free, fresh⟩, added⟩ := Option.ite_none_right_eq_some.mp added
          cases added
          rcases creates.execution oracle with ⟨-, error, failed⟩ | ⟨call, -, -, -, keeps⟩
          · cases resultEq.symm.trans failed
          · exact .inr ⟨_, rfl, Values.view_addValue found free fresh (keeps value resultEq)⟩
  | call slot method oracle =>
      obtain ⟨owned, found, rest⟩ := Option.bind_eq_some_iff.mp moved
      obtain ⟨program, isProgram, rest⟩ := Option.bind_eq_some_iff.mp rest
      obtain ⟨⟨result, between⟩, ran, isNext⟩ := Option.bind_eq_some_iff.mp rest
      cases isNext
      obtain ⟨given, -, acts⟩ := Method.actsOn isProgram
      obtain ⟨-, rfl⟩ := Values.run_of_quiet acts.quiet ran
      exact .inr ⟨_, rfl, Values.view_use found⟩
  | pack number slot packing oracle =>
      obtain ⟨context, found, rest⟩ := Option.bind_eq_some_iff.mp moved
      obtain ⟨owned, foundValue, rest⟩ := Option.bind_eq_some_iff.mp rest
      obtain ⟨program, isProgram, rest⟩ := Option.bind_eq_some_iff.mp rest
      obtain ⟨⟨result, between⟩, ran, isNext⟩ := Option.bind_eq_some_iff.mp rest
      cases isNext
      obtain ⟨-, rfl⟩ := Values.run_of_quiet (Packing.actsOn isProgram).quiet ran
      exact .inr ⟨_, rfl, Values.view_join found foundValue⟩
  | dropValue slot oracle =>
      obtain ⟨owned, found, rest⟩ := Option.bind_eq_some_iff.mp moved
      obtain ⟨⟨result, between⟩, ran, isNext⟩ := Option.bind_eq_some_iff.mp rest
      cases isNext
      obtain ⟨value, finished, same⟩ := Option.map_eq_some_iff.mp ran
      cases same
      obtain ⟨given, front, last, -, callsEq, quiet, -, ends⟩ := Value.drop_calls finished
      have ends : contextInterface.ended last = _ := ends
      rw [callsEq, List.foldl_append, Interface.foldl_serve_of_quiet quiet, List.foldl_cons,
        List.foldl_nil, Interface.serve_of_ends ends]
      exact .inr ⟨_, rfl, Values.view_dropValue found⟩

theorem seen_newContext {config : Context.Config} {params : Context.Params} {oracle : Oracle}
    {label : ScopedHandles.Label ContextHandle Object}
    (isSeen : seen world (.newContext config params oracle) = some label) :
    ∃ scope, label = .openScope scope := by
  rcases resultEq : ((ofFfi (Context.new config params)).execute oracle []).result with
    _ | error | context
  · simp [seen, resultEq] at isSeen
  · simp [seen, resultEq] at isSeen
  · simp only [seen, resultEq] at isSeen
    cases isSeen
    exact ⟨_, rfl⟩

theorem seen_create {number slot : Nat} {creation : Creation} {oracle : Oracle}
    {label : ScopedHandles.Label ContextHandle Object}
    (isSeen : seen world (.create number slot creation oracle) = some label) :
    OnScope number label := by
  obtain ⟨context, -, isSeen⟩ := Option.bind_eq_some_iff.mp isSeen
  unfold seenCreation at isSeen
  split at isSeen
  case h_1 value resultEq =>
    cases isSeen
    exact .opens slot _
  case h_2 =>
    obtain ⟨-, isUse⟩ := Option.ite_none_left_eq_some.mp isSeen
    cases isUse
    exact .use

/-- A step gives UCX what is open exactly if its step of handles is sound. -/
theorem givesOpen_iff {label : Label} (moved : step world label = some next) :
    GivesOpen world label ↔ Seen Sound view seen world label next := by
  cases label with
  | newContext config params oracle =>
      have given : GivesOpen world (.newContext config params oracle) := by
        intro context number
        have quiet : ∀ call ∈ ((ofFfi (Context.new config params)).execute oracle []).calls,
            Quiet [] call := fun call member =>
          (newContext_quiet config params).of_mem_calls member
        exact Interface.served_of_quiet quiet fun _ absent => by cases absent
      refine iff_of_true given fun label isSeen => ?_
      obtain ⟨scope, rfl⟩ := seen_newContext isSeen
      trivial
  | dropContext number oracle =>
      obtain ⟨context, found, -⟩ := Option.bind_eq_some_iff.mp moved
      refine (forall_eq_some found _).trans ?_
      refine Iff.trans ?_ (forall_eq_some (rfl : seen world _ = some (.dropScope number)) _).symm
      refine Iff.trans ?_ (Values.forall_scope found _).symm
      unfold ServesWell
      rw [dropContext_calls]
      exact (Interface.served_singleton rfl).trans List.forall_mem_singleton
  | create number slot creation oracle =>
      obtain ⟨context, found, -⟩ := Option.bind_eq_some_iff.mp moved
      refine (forall_eq_some found _).trans ?_
      unfold ServesWell
      have isSeen : seen world (.create number slot creation oracle) =
          seenCreation number slot ((creation.program context).execute oracle []) := by
        simp only [seen, found, Option.bind_some]
      rcases (creation.creates context).execution oracle with
        ⟨noCalls, error, failed⟩ | ⟨call, calls, named, -, -⟩
      · rw [noCalls]
        refine iff_of_true trivial fun label seenEq => ?_
        simp [isSeen, seenCreation, failed, noCalls] at seenEq
      · have opens : (seen world (.create number slot creation oracle)).isSome := by
          rw [isSeen]
          unfold seenCreation
          rcases ((creation.program context).execute oracle []).result with
            _ | error | value <;>
            simp [calls]
        obtain ⟨label, seenEq⟩ := Option.isSome_iff_exists.mp opens
        rw [calls]
        refine (Interface.served_singleton named).trans (List.forall_mem_singleton.trans ?_)
        refine Iff.trans ?_ (forall_eq_some seenEq _).symm
        have stands := @OnScope.sound_iff _ _ _ _ contextHolding _ _ _ _ (seen_create seenEq) found
        exact stands.symm
  | call slot method oracle =>
      obtain ⟨owned, found, rest⟩ := Option.bind_eq_some_iff.mp moved
      obtain ⟨program, isProgram, -⟩ := Option.bind_eq_some_iff.mp rest
      obtain ⟨given, names, acts⟩ := Method.actsOn isProgram
      refine Iff.trans ?_ (forall_eq_some (rfl : seen world _ = some (.use slot)) _).symm
      refine Iff.trans ?_ (Values.forall_child found _).symm
      have served : ServesWell world owned.value.context owned.number program oracle ↔ _ :=
        (acts.served_iff _ _ _).trans (names.stand_iff _ _)
      exact (forall_eq_some_two found isProgram _).trans served
  | pack number slot packing oracle =>
      obtain ⟨context, found, rest⟩ := Option.bind_eq_some_iff.mp moved
      obtain ⟨owned, foundValue, rest⟩ := Option.bind_eq_some_iff.mp rest
      obtain ⟨program, isProgram, -⟩ := Option.bind_eq_some_iff.mp rest
      have acts := Packing.actsOn isProgram
      refine Iff.trans ?_ (forall_eq_some (rfl : seen world _ = some (.join number slot)) _).symm
      have joined : Sound (view world) (.join number slot) ↔ _ :=
        Values.matches_iff found foundValue
      have served : ServesWell world owned.value.context owned.number program oracle ↔ _ :=
        (acts.served_iff _ _ _).trans (stand_pair_iff contextHolding _ _ _ _)
      refine Iff.trans ?_ (served.trans joined.symm)
      exact forall_eq_some_three found foundValue isProgram _
  | dropValue slot oracle =>
      obtain ⟨owned, found, rest⟩ := Option.bind_eq_some_iff.mp moved
      obtain ⟨⟨result, between⟩, ran, -⟩ := Option.bind_eq_some_iff.mp rest
      obtain ⟨value, finished, -⟩ := Option.map_eq_some_iff.mp ran
      obtain ⟨given, front, last, names, callsEq, quiet, named, -⟩ := Value.drop_calls finished
      refine (forall_eq_some found _).trans ?_
      refine Iff.trans ?_ (forall_eq_some (rfl : seen world _ = some (.dropObject slot)) _).symm
      refine Iff.trans ?_ (Values.forall_child found _).symm
      unfold ServesWell
      rw [callsEq]
      exact (Interface.served_iff_of_ending quiet named).trans (names.stand_iff _ _)

theorem keepsContext_iff {label : Label} (moved : step world label = some next) :
    KeepsContext world label ↔ Seen Disciplined view seen world label next := by
  cases label with
  | newContext config params oracle =>
      refine iff_of_true trivial fun label isSeen => ?_
      obtain ⟨scope, rfl⟩ := seen_newContext isSeen
      trivial
  | dropContext number oracle =>
      refine iff_of_true trivial fun label isSeen => ?_
      cases isSeen
      trivial
  | create number slot creation oracle =>
      exact iff_of_true trivial fun label isSeen => (seen_create isSeen).disciplined
  | call slot method oracle =>
      obtain ⟨owned, found, -⟩ := Option.bind_eq_some_iff.mp moved
      refine (forall_eq_some found _).trans ?_
      refine Iff.trans ?_ (forall_eq_some (rfl : seen world _ = some (.use slot)) _).symm
      exact Values.isOpen_iff.symm.trans (Values.forall_child found (view world).IsOpen).symm
  | pack number slot packing oracle =>
      obtain ⟨context, -, rest⟩ := Option.bind_eq_some_iff.mp moved
      obtain ⟨owned, found, -⟩ := Option.bind_eq_some_iff.mp rest
      refine (forall_eq_some found _).trans ?_
      refine Iff.trans ?_ (forall_eq_some (rfl : seen world _ = some (.join number slot)) _).symm
      exact (Values.forall_child found fun child => number = child.number).symm
  | dropValue slot oracle =>
      obtain ⟨owned, found, -⟩ := Option.bind_eq_some_iff.mp moved
      refine (forall_eq_some found _).trans ?_
      refine Iff.trans ?_ (forall_eq_some (rfl : seen world _ = some (.dropObject slot)) _).symm
      exact Values.isOpen_iff.symm.trans (Values.forall_child found (view world).IsOpen).symm

theorem DropsContextLast.seen {label : Label} (ordered : DropsContextLast world label)
    (moved : step world label = some next) : Seen DropsEmpty view seen world label next := by
  intro seenLabel isSeen
  cases label with
  | newContext config params oracle =>
      obtain ⟨scope, rfl⟩ := seen_newContext isSeen
      trivial
  | dropContext number oracle =>
      cases isSeen
      intro slot child isChild
      obtain ⟨owned, found, rfl⟩ := Option.map_eq_some_iff.mp isChild
      exact ordered slot owned found
  | create number slot creation oracle =>
      exact (seen_create isSeen).dropsEmpty
  | call slot method oracle =>
      cases isSeen
      trivial
  | pack number slot packing oracle =>
      cases isSeen
      obtain ⟨context, -, rest⟩ := Option.bind_eq_some_iff.mp moved
      obtain ⟨owned, found, -⟩ := Option.bind_eq_some_iff.mp rest
      exact (Values.forall_child found fun child => number = child.number).mpr
        (ordered owned found)
  | dropValue slot oracle =>
      cases isSeen
      trivial

theorem dropsItself_of_step {label : Label} (moved : step world label = some next) :
    DropsItself world label := by
  cases label with
  | dropValue slot oracle =>
      obtain ⟨owned, found, rest⟩ := Option.bind_eq_some_iff.mp moved
      obtain ⟨⟨result, between⟩, ran, -⟩ := Option.bind_eq_some_iff.mp rest
      obtain ⟨value, finished, -⟩ := Option.map_eq_some_iff.mp ran
      rintro other foundOther
      cases found.symm.trans foundOther
      exact Value.drop_calls finished
  | _ => trivial

end Simulation

/-- In every run of contexts, workers and memory, and whatever UCX answers: everything
that the code gives to UCX is open and belongs to the right context, exactly if each worker
and memory handle is used and dropped before its own context, and keys are packed with it.
Nothing in the types asks for that; packing so and dropping each context last is enough.
Whatever the order, each drop of a worker or a memory handle gives UCX its own handles only
and ends its own object with the last call. -/
theorem handles_stand_iff_context_kept (run : List Label) :
    (EveryStep step (fun world label _ => GivesOpen world label) Values.initial run ↔
      EveryStep step (fun world label _ => KeepsContext world label) Values.initial run) ∧
    (EveryStep step (fun world label _ => DropsContextLast world label) Values.initial run →
      EveryStep step (fun world label _ => GivesOpen world label) Values.initial run) ∧
    EveryStep step (fun world label _ => DropsItself world label) Values.initial run := by
  refine ⟨?_, ?_, ?_⟩
  · exact @gives_iff_keeps _ _ _ _ _ _ step view seen _ _ (fun _ => True) _ simulates
      givesOpen_iff (fun _ => keepsContext_iff) (fun _ _ => trivial) rfl trivial run
  · exact gives_of_ordered simulates givesOpen_iff DropsContextLast.seen rfl
  · exact @everyStep_of_invariant_before _ _ step (fun _ => True) _ (fun _ _ => trivial)
      (fun _ => dropsItself_of_step) _ trivial run

end ContextLifetimes

end UcxRs
