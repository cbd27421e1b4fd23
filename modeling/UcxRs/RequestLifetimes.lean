import UcxRs.WorkerValues

/-!
# Requests that must not outlive their worker

`ucp_worker_destroy` ends the endpoints and the requests of a worker with it, and safe code
may drop a worker first.  The drops of its endpoints see the lowered flag then and stay
silent.  Nothing stops the methods of an endpoint, and nothing stops a request: its drop
gives UCX a handle that is gone, or that by now stands for something else.

So only endpoints may be dropped late.  The rest comes in time exactly if the order of
drops that the threading rules ask for is kept where it matters.
-/

namespace UcxRs

namespace RequestLifetimes

open Interaction (Environment)
open Interaction.Program
open ScopedHandles
open TransitionRuns (EveryStep)
open WorkerValues

/-- The tables of UCX and the values, and what the liveness flags hold. -/
structure World where
  values : Values Worker Value WorkerHandle Object
  flags : AliveFlag → Bool

def World.initial : World where
  values := Values.initial
  flags := fun _ => true

inductive Label where
  | createWorker (handle : WorkerHandle)
  | dropWorker (number : Nat) (oracle : Environment Call Answer)
  | createEp (number slot : Nat) (epParams : Ep.Params) (oracle : Environment Call Answer)
  | callWorker (number slot : Nat) (method : WorkerMethod) (oracle : Environment Call Answer)
  | callEp (slot target : Nat) (method : EpMethod) (oracle : Environment Call Answer)
  | callRequest (slot : Nat) (method : RequestMethod) (oracle : Environment Call Answer)
  | cancelRequest (number slot : Nat) (oracle : Environment Call Answer)
  | cancel (number slot : Nat) (oracle : Environment Call Answer)
  | dispose (slot : Nat) (disposal : Disposal) (oracle : Environment Call Answer)

namespace World

/-- The result of a program and the world after its calls. -/
def run {Result : Type} (world : World) (interface : Interface Call WorkerHandle Object)
    (program : Ffi Result) (oracle : Environment Call Answer) : Option (Result × World) :=
  let environment := sharing world.flags oracle
  (world.values.run interface program environment).map fun (result, values) =>
    (result, ⟨values, (program.execute environment []).calls.foldl store world.flags⟩)

/-- A value in an empty slot; UCX gives out no handle of something that is open. -/
def add (world : World) (number slot : Nat) (value : Value) : Option World :=
  if world.values.owned slot = none ∧ world.values.isFresh value.object then
    some { world with values := Values.addValue holding world.values number slot value }
  else none

def addEp (world : World) (number slot : Nat) (worker : WorkerHandle) :
    Except Status Ep → Option World
  | .ok ep => world.add number slot (.ep ep worker)
  | .error _ => some world

def addRequest (world : World) (number slot : Nat) (worker : WorkerHandle) :
    Option NonNull → Option World
  | some handle => world.add number slot (.request handle worker)
  | none => some world

end World

def step (world : World) : Label → Option World
  | .createWorker handle =>
      if world.values.tables.scopes handle = none then
        some { world with
          values := Values.addKeeper holding world.values ⟨handle, ⟨world.values.opened⟩⟩ }
      else none
  | .dropWorker number oracle => do
      let worker ← world.values.keepers number
      let (_, world) ← world.run workerInterface worker.drop oracle
      some { world with values := world.values.removeKeeper number }
  | .createEp number slot epParams oracle => do
      let worker ← world.values.keepers number
      let (result, world) ← world.run interface (worker.createEp epParams) oracle
      world.addEp number slot worker.handle result
  | .callWorker number slot method oracle => do
      let worker ← world.values.keepers number
      let (result, world) ← world.run interface (method.program worker) oracle
      world.addRequest number slot worker.handle result
  | .callEp slot target method oracle => do
      let owned ← world.values.owned slot
      let program ← method.program owned.value
      let (result, world) ← world.run interface program oracle
      world.addRequest owned.number target owned.value.worker result
  | .callRequest slot method oracle => do
      let owned ← world.values.owned slot
      let program ← method.program owned.value
      let (_, world) ← world.run interface program oracle
      some world
  | .cancelRequest number slot oracle => do
      let worker ← world.values.keepers number
      let owned ← world.values.owned slot
      let program ← cancelRequestProgram worker owned.value
      let (_, world) ← world.run interface program oracle
      some world
  | .cancel number slot oracle => do
      let worker ← world.values.keepers number
      let owned ← world.values.owned slot
      let program ← cancelProgram worker owned.value
      let (_, world) ← world.run interface program oracle
      some { world with values := world.values.removeValue slot }
  | .dispose slot disposal oracle => do
      let owned ← world.values.owned slot
      let program ← disposal.program owned.value
      let (_, world) ← world.run interface program oracle
      some { world with values := world.values.removeValue slot }

/-- The calls of a program are served, the objects being those of this worker. -/
def ServesWell {Result : Type} (world : World) (interface : Interface Call WorkerHandle Object)
    (worker : WorkerHandle) (number : Nat) (program : Ffi Result)
    (oracle : Environment Call Answer) : Prop :=
  interface.Served worker number world.values.tables
    (program.execute (sharing world.flags oracle) []).calls

/-- Whatever a step gives to UCX is open and belongs to the worker of its value. -/
def GivesOpen (world : World) : Label → Prop
  | .createWorker _ => True
  | .dropWorker number oracle => ∀ worker, world.values.keepers number = some worker →
      ServesWell world workerInterface worker.handle number worker.drop oracle
  | .createEp number _ epParams oracle => ∀ worker, world.values.keepers number = some worker →
      ServesWell world interface worker.handle number (worker.createEp epParams) oracle
  | .callWorker number _ method oracle => ∀ worker, world.values.keepers number = some worker →
      ServesWell world interface worker.handle number (method.program worker) oracle
  | .callEp slot _ method oracle => ∀ owned program, world.values.owned slot = some owned →
      method.program owned.value = some program →
        ServesWell world interface owned.value.worker owned.number program oracle
  | .callRequest slot method oracle => ∀ owned program, world.values.owned slot = some owned →
      method.program owned.value = some program →
        ServesWell world interface owned.value.worker owned.number program oracle
  | .cancelRequest number slot oracle => ∀ worker owned program,
      world.values.keepers number = some worker → world.values.owned slot = some owned →
        cancelRequestProgram worker owned.value = some program →
          ServesWell world interface owned.value.worker owned.number program oracle
  | .cancel number slot oracle => ∀ worker owned program,
      world.values.keepers number = some worker → world.values.owned slot = some owned →
        cancelProgram worker owned.value = some program →
          ServesWell world interface owned.value.worker owned.number program oracle
  | .dispose slot disposal oracle => ∀ owned program, world.values.owned slot = some owned →
      disposal.program owned.value = some program →
        ServesWell world interface owned.value.worker owned.number program oracle

def isRequest : Value → Bool
  | .ep _ _ => false
  | .request _ _ => true

/-- Endpoints are used, and requests used and dropped, before the worker that they were
created on is dropped; requests are cancelled on that worker. -/
def KeepsWorker (world : World) : Label → Prop
  | .callEp slot _ _ _ => ∀ owned, world.values.owned slot = some owned →
      (world.values.keepers owned.number).isSome
  | .callRequest slot _ _ => ∀ owned, world.values.owned slot = some owned →
      (world.values.keepers owned.number).isSome
  | .cancelRequest number slot _ => ∀ owned, world.values.owned slot = some owned →
      number = owned.number
  | .cancel number slot _ => ∀ owned, world.values.owned slot = some owned →
      number = owned.number
  | .dispose slot _ _ => ∀ owned, world.values.owned slot = some owned →
      isRequest owned.value → (world.values.keepers owned.number).isSome
  | _ => True

/-- The documented order: a worker is dropped after its endpoints and requests.  Requests
are cancelled on the worker that they were created on, as in `KeepsWorker`. -/
def DropsWorkerLast (world : World) : Label → Prop
  | .dropWorker number _ => ∀ slot owned, world.values.owned slot = some owned →
      owned.number ≠ number
  | .cancelRequest number slot _ => ∀ owned, world.values.owned slot = some owned →
      number = owned.number
  | .cancel number slot _ => ∀ owned, world.values.owned slot = some owned →
      number = owned.number
  | _ => True

def view (world : World) : ScopedHandles.World WorkerHandle Object :=
  Values.view holding world.values

/-- What a step does to the handles.  A posting opens a request unless it completed at
once, and the drop of an endpoint that finds its flag lowered only gives the value up. -/
def seen (world : World) : Label → Option (ScopedHandles.Label WorkerHandle Object)
  | .createWorker handle => some (.openScope handle)
  | .dropWorker number _ => some (.dropScope number)
  | .createEp number slot epParams oracle =>
      (world.values.keepers number).map fun worker =>
        match ((worker.createEp epParams).execute (sharing world.flags oracle) []).result with
        | some (.ok ep) => .openObject number slot (.ep ep.handle)
        | _ => .useScope number
  | .callWorker number slot method oracle =>
      (world.values.keepers number).map fun worker =>
        match ((method.program worker).execute (sharing world.flags oracle) []).result with
        | some (some handle) => .openObject number slot (.request handle)
        | _ => .useScope number
  | .callEp slot target method oracle =>
      (world.values.owned slot).bind fun owned =>
        (method.program owned.value).map fun program =>
          match (program.execute (sharing world.flags oracle) []).result with
          | some (some handle) => .derive slot target (.request handle)
          | _ => .use slot
  | .callRequest slot _ _ => some (.use slot)
  | .cancelRequest number slot _ => some (.join number slot)
  | .cancel number slot _ => some (.joinDrop number slot)
  | .dispose slot disposal oracle =>
      (world.values.owned slot).bind fun owned =>
        (disposal.program owned.value).map fun program =>
          if (program.execute (sharing world.flags oracle) []).calls.any
              fun call => (ended call).isSome then
            .dropObject slot
          else .forget slot

section Simulation

variable {world next : World}

theorem run_of_calm {Result : Type} {given : List (Argument WorkerHandle Object)}
    {program : Ffi Result} {oracle : Environment Call Answer} {result : Result}
    (calm : program.EveryCall (Calm given))
    (ran : world.run interface program oracle = some (result, next)) :
    (program.execute (sharing world.flags oracle) []).result = some result ∧ next = world := by
  obtain ⟨⟨value, values⟩, ranValues, same⟩ := Option.map_eq_some_iff.mp ran
  cases same
  obtain ⟨resultEq, rfl⟩ := Values.run_of_quiet (calm.mono fun _ => And.left) ranValues
  have storeless : ∀ call ∈ (program.execute (sharing world.flags oracle) []).calls,
      WorkerWorld.Storeless call := fun call member => (calm.of_mem_calls member).2
  refine ⟨resultEq, ?_⟩
  rw [foldl_store_of_storeless storeless]

theorem run_dropWorker {worker : Worker} {oracle : Environment Call Answer} {result : Unit}
    (ran : world.run workerInterface worker.drop oracle = some (result, next)) :
    next = ⟨{ world.values with
      tables := { world.values.tables with
        scopes := Function.update world.values.tables.scopes worker.handle none } },
      Function.update world.flags worker.alive false⟩ := by
  obtain ⟨⟨value, values⟩, ranValues, same⟩ := Option.map_eq_some_iff.mp ran
  cases same
  obtain ⟨value, finished, same⟩ := Option.map_eq_some_iff.mp ranValues
  cases same
  obtain ⟨front, callsEq, quiet, stored⟩ := dropWorker_calls finished
  rw [stored, callsEq, List.foldl_append, Interface.foldl_serve_of_quiet quiet]
  rfl

/-- The world after calls of which the last one ends an object. -/
theorem run_of_ending {Result : Type} {given : List (Argument WorkerHandle Object)}
    {program : Ffi Result} {oracle : Environment Call Answer} {result : Result}
    {front : List Call} {last : Call} {object : Object}
    (callsEq : (program.execute (sharing world.flags oracle) []).calls = front ++ [last])
    (calm : ∀ call ∈ front, Calm given call) (ends : EndsObject object last)
    (ran : world.run interface program oracle = some (result, next)) :
    next = { world with
      values := { world.values with
        tables := { world.values.tables with
          objects := Function.update world.values.tables.objects object none } } } := by
  obtain ⟨⟨value, values⟩, ranValues, same⟩ := Option.map_eq_some_iff.mp ran
  cases same
  obtain ⟨value, finished, same⟩ := Option.map_eq_some_iff.mp ranValues
  cases same
  have storeless : ∀ call ∈ front ++ [last], WorkerWorld.Storeless call := by
    intro call member
    rcases List.mem_append.mp member with before | isLast
    · exact (calm call before).2
    · obtain rfl := List.mem_singleton.mp isLast
      exact ends.storeless
  have quiet : ∀ call ∈ front, interface.Quiet given call := fun call member =>
    (calm call member).1
  rw [callsEq, foldl_store_of_storeless storeless, List.foldl_append,
    Interface.foldl_serve_of_quiet quiet, List.foldl_cons, List.foldl_nil,
    Interface.serve_of_ends ends.ends]

theorem run_of_late {Result : Type} {program : Ffi Result} {oracle : Environment Call Answer}
    {result : Result} {flag : AliveFlag}
    (callsEq : (program.execute (sharing world.flags oracle) []).calls = [.loadAlive flag])
    (ran : world.run interface program oracle = some (result, next)) : next = world := by
  obtain ⟨⟨value, values⟩, ranValues, same⟩ := Option.map_eq_some_iff.mp ran
  cases same
  obtain ⟨value, finished, same⟩ := Option.map_eq_some_iff.mp ranValues
  cases same
  rw [callsEq]
  rfl

theorem finished_of_run {Result : Type} {program : Ffi Result}
    {oracle : Environment Call Answer} {result : Result}
    {used : Interface Call WorkerHandle Object}
    (ran : world.run used program oracle = some (result, next)) :
    (program.execute (sharing world.flags oracle) []).result = some result := by
  obtain ⟨⟨value, values⟩, ranValues, same⟩ := Option.map_eq_some_iff.mp ran
  cases same
  obtain ⟨value, finished, same⟩ := Option.map_eq_some_iff.mp ranValues
  cases same
  exact finished

theorem addEp_eq_some {number slot : Nat} {worker : WorkerHandle} {result : Except Status Ep}
    (added : world.addEp number slot worker result = some next) :
    (∃ error, result = .error error ∧ next = world) ∨
      ∃ ep, result = .ok ep ∧ world.values.owned slot = none ∧
        world.values.isFresh (Object.ep ep.handle) = true ∧
        next = { world with
          values := Values.addValue holding world.values number slot (.ep ep worker) } := by
  cases result with
  | error error =>
      cases added
      exact .inl ⟨error, rfl, rfl⟩
  | ok ep =>
      obtain ⟨⟨free, fresh⟩, added⟩ := Option.ite_none_right_eq_some.mp added
      cases added
      exact .inr ⟨ep, rfl, free, fresh, rfl⟩

theorem addRequest_eq_some {number slot : Nat} {worker : WorkerHandle}
    {result : Option NonNull}
    (added : world.addRequest number slot worker result = some next) :
    (result = none ∧ next = world) ∨
      ∃ handle, result = some handle ∧ world.values.owned slot = none ∧
        world.values.isFresh (Object.request handle) = true ∧
        next = { world with
          values := Values.addValue holding world.values number slot
            (.request handle worker) } := by
  cases result with
  | none =>
      cases added
      exact .inl ⟨rfl, rfl⟩
  | some handle =>
      obtain ⟨⟨free, fresh⟩, added⟩ := Option.ite_none_right_eq_some.mp added
      cases added
      exact .inr ⟨handle, rfl, free, fresh, rfl⟩

section Dispose

variable {slot : Nat} {disposal : Disposal} {oracle : Environment Call Answer}
  {owned : Owned Value} {program : Ffi Unit}

theorem seen_dispose (found : world.values.owned slot = some owned)
    (isProgram : disposal.program owned.value = some program) :
    seen world (.dispose slot disposal oracle) =
      some (if (program.execute (sharing world.flags oracle) []).calls.any
          fun call => (ended call).isSome then .dropObject slot else .forget slot) := by
  simp only [seen, found, isProgram, Option.bind_some, Option.map_some]

theorem seen_dispose_ended {front : List Call} {last : Call} {object : Object}
    (found : world.values.owned slot = some owned)
    (isProgram : disposal.program owned.value = some program)
    (callsEq : (program.execute (sharing world.flags oracle) []).calls = front ++ [last])
    (ends : EndsObject object last) :
    seen world (.dispose slot disposal oracle) = some (.dropObject slot) := by
  have any : (front ++ [last]).any (fun call => (ended call).isSome) = true := by
    rw [List.any_append, List.any_cons, ends.ends]
    exact Bool.or_true _
  rw [seen_dispose found isProgram, callsEq, if_pos any]

theorem seen_dispose_late {flag : AliveFlag} (found : world.values.owned slot = some owned)
    (isProgram : disposal.program owned.value = some program)
    (callsEq : (program.execute (sharing world.flags oracle) []).calls = [.loadAlive flag]) :
    seen world (.dispose slot disposal oracle) = some (.forget slot) := by
  rw [seen_dispose found isProgram, callsEq]
  rfl

end Dispose

theorem simulates : Simulates step view seen := by
  intro world label next moved
  cases label with
  | createWorker handle =>
      obtain ⟨fresh, added⟩ := Option.ite_none_right_eq_some.mp moved
      cases added
      have opened := @Values.view_addKeeper _ _ _ _ holding world.values _ _
        ⟨handle, ⟨world.values.opened⟩⟩ fresh
      exact .inr ⟨_, rfl, opened⟩
  | dropWorker number oracle =>
      obtain ⟨worker, found, rest⟩ := Option.bind_eq_some_iff.mp moved
      obtain ⟨⟨result, between⟩, ran, isNext⟩ := Option.bind_eq_some_iff.mp rest
      cases isNext
      obtain rfl := run_dropWorker ran
      exact .inr ⟨_, rfl, Values.view_dropKeeper found⟩
  | createEp number slot epParams oracle =>
      obtain ⟨worker, found, rest⟩ := Option.bind_eq_some_iff.mp moved
      obtain ⟨⟨result, between⟩, ran, added⟩ := Option.bind_eq_some_iff.mp rest
      obtain ⟨resultEq, rfl⟩ := run_of_calm (createEp_acts worker epParams).calm ran
      rcases addEp_eq_some added with ⟨error, rfl, rfl⟩ | ⟨ep, rfl, free, fresh, rfl⟩
      · exact .inr ⟨.useScope number, by simp [seen, found, resultEq],
          Values.view_useScope found⟩
      · have opened := @Values.view_addValue _ _ _ _ holding _ _ _ _ _ _
          (.ep ep worker.handle) found free fresh rfl
        exact .inr ⟨.openObject number slot (.ep ep.handle),
          by simp [seen, found, resultEq], opened⟩
  | callWorker number slot method oracle =>
      obtain ⟨worker, found, rest⟩ := Option.bind_eq_some_iff.mp moved
      obtain ⟨⟨result, between⟩, ran, added⟩ := Option.bind_eq_some_iff.mp rest
      obtain ⟨resultEq, rfl⟩ := run_of_calm (method.acts worker).calm ran
      rcases addRequest_eq_some added with ⟨rfl, rfl⟩ | ⟨handle, rfl, free, fresh, rfl⟩
      · exact .inr ⟨.useScope number, by simp [seen, found, resultEq],
          Values.view_useScope found⟩
      · have opened := @Values.view_addValue _ _ _ _ holding _ _ _ _ _ _
          (.request handle worker.handle) found free fresh rfl
        exact .inr ⟨.openObject number slot (.request handle),
          by simp [seen, found, resultEq], opened⟩
  | callEp slot target method oracle =>
      obtain ⟨owned, found, rest⟩ := Option.bind_eq_some_iff.mp moved
      obtain ⟨program, isProgram, rest⟩ := Option.bind_eq_some_iff.mp rest
      obtain ⟨⟨result, between⟩, ran, added⟩ := Option.bind_eq_some_iff.mp rest
      obtain ⟨resultEq, rfl⟩ := run_of_calm (EpMethod.acts isProgram).calm ran
      rcases addRequest_eq_some added with ⟨rfl, rfl⟩ | ⟨handle, rfl, free, fresh, rfl⟩
      · exact .inr ⟨.use slot, by simp [seen, found, isProgram, resultEq],
          Values.view_use found⟩
      · have derived := @Values.view_derive _ _ _ _ holding _ _ _ _ _ _
          (.request handle owned.value.worker) found free fresh rfl
        exact .inr ⟨.derive slot target (.request handle),
          by simp [seen, found, isProgram, resultEq], derived⟩
  | callRequest slot method oracle =>
      obtain ⟨owned, found, rest⟩ := Option.bind_eq_some_iff.mp moved
      obtain ⟨program, isProgram, rest⟩ := Option.bind_eq_some_iff.mp rest
      obtain ⟨⟨result, between⟩, ran, isNext⟩ := Option.bind_eq_some_iff.mp rest
      cases isNext
      obtain ⟨-, rfl⟩ := run_of_calm (RequestMethod.acts isProgram).calm ran
      exact .inr ⟨_, rfl, Values.view_use found⟩
  | cancelRequest number slot oracle =>
      obtain ⟨worker, found, rest⟩ := Option.bind_eq_some_iff.mp moved
      obtain ⟨owned, foundValue, rest⟩ := Option.bind_eq_some_iff.mp rest
      obtain ⟨program, isProgram, rest⟩ := Option.bind_eq_some_iff.mp rest
      obtain ⟨⟨result, between⟩, ran, isNext⟩ := Option.bind_eq_some_iff.mp rest
      cases isNext
      obtain ⟨-, rfl⟩ := run_of_calm (cancelRequestProgram_acts isProgram).calm ran
      exact .inr ⟨_, rfl, Values.view_join found foundValue⟩
  | cancel number slot oracle =>
      obtain ⟨worker, found, rest⟩ := Option.bind_eq_some_iff.mp moved
      obtain ⟨owned, foundValue, rest⟩ := Option.bind_eq_some_iff.mp rest
      obtain ⟨program, isProgram, rest⟩ := Option.bind_eq_some_iff.mp rest
      obtain ⟨⟨result, between⟩, ran, isNext⟩ := Option.bind_eq_some_iff.mp rest
      cases isNext
      obtain ⟨first, last, callsEq, -, calm, ends⟩ := cancelProgram_calls isProgram
        (finished_of_run ran)
      have calmAll : ∀ call ∈ [first], Calm _ call := fun call member =>
        List.mem_singleton.mp member ▸ calm
      obtain rfl := run_of_ending callsEq calmAll ends ran
      exact .inr ⟨_, rfl, Values.view_joinDrop found foundValue⟩
  | dispose slot disposal oracle =>
      obtain ⟨owned, found, rest⟩ := Option.bind_eq_some_iff.mp moved
      obtain ⟨program, isProgram, rest⟩ := Option.bind_eq_some_iff.mp rest
      obtain ⟨⟨result, between⟩, ran, isNext⟩ := Option.bind_eq_some_iff.mp rest
      cases isNext
      rcases Disposal.disposed isProgram with
        ⟨front, last, callsEq, endedBy⟩ | ⟨ep, worker, same, callsEq⟩
      · obtain rfl := run_of_ending callsEq endedBy.calm endedBy.ends ran
        exact .inr ⟨_, seen_dispose_ended found isProgram callsEq endedBy.ends,
          Values.view_dropValue found⟩
      · obtain rfl := run_of_late callsEq ran
        exact .inr ⟨_, seen_dispose_late found isProgram callsEq, Values.view_forget found⟩

section Labels

variable {number slot target : Nat} {oracle : Environment Call Answer} {worker : Worker}

theorem seen_createEp {epParams : Ep.Params}
    (found : world.values.keepers number = some worker) :
    ∃ label, seen world (.createEp number slot epParams oracle) = some label ∧
      OnScope number label := by
  simp only [seen, found, Option.map_some]
  refine ⟨_, rfl, ?_⟩
  split
  · exact .opens slot _
  · exact .use

theorem seen_callWorker {method : WorkerMethod}
    (found : world.values.keepers number = some worker) :
    ∃ label, seen world (.callWorker number slot method oracle) = some label ∧
      OnScope number label := by
  simp only [seen, found, Option.map_some]
  refine ⟨_, rfl, ?_⟩
  split
  · exact .opens slot _
  · exact .use

theorem seen_callEp {method : EpMethod} {owned : Owned Value}
    {program : Ffi (Option NonNull)} (found : world.values.owned slot = some owned)
    (isProgram : method.program owned.value = some program) :
    ∃ label, seen world (.callEp slot target method oracle) = some label ∧
      OnValue slot label := by
  simp only [seen, found, isProgram, Option.bind_some, Option.map_some]
  refine ⟨_, rfl, ?_⟩
  split
  · exact .derives target _
  · exact .use

end Labels

section Served

variable {Result : Type} {program : Ffi Result} {oracle : Environment Call Answer}

/-- What is given in a program that acts on a worker. -/
theorem servesWell_worker {worker : Worker} {number : Nat}
    (acts : Acts [.scope worker.handle] program) :
    ServesWell world interface worker.handle number program oracle ↔
      world.values.tables.scopes (holding.scope worker) = some number :=
  (acts.actsOn.served_iff _ _ _).trans List.forall_mem_singleton

theorem stand_value_iff (tables : Tables WorkerHandle Object) (owned : Owned Value) :
    (∀ argument ∈ [Argument.object owned.value.object],
        Stands tables owned.value.worker owned.number argument) ↔
      Names tables (holding.child owned) :=
  @NamesValue.stand_iff _ _ _ _ holding owned.value _ (.inl rfl) tables owned.number

theorem servesWell_value {owned : Owned Value}
    (acts : Acts [.object owned.value.object] program) :
    ServesWell world interface owned.value.worker owned.number program oracle ↔
      Names world.values.tables (holding.child owned) :=
  (acts.actsOn.served_iff _ _ _).trans (stand_value_iff world.values.tables owned)

end Served

/-- A step gives UCX what is open exactly if its step of handles is sound. -/
theorem givesOpen_iff {label : Label} (moved : step world label = some next) :
    GivesOpen world label ↔ Seen Sound view seen world label next := by
  cases label with
  | createWorker handle =>
      refine iff_of_true trivial fun label isSeen => ?_
      cases isSeen
      trivial
  | dropWorker number oracle =>
      obtain ⟨worker, found, rest⟩ := Option.bind_eq_some_iff.mp moved
      obtain ⟨⟨result, between⟩, ran, -⟩ := Option.bind_eq_some_iff.mp rest
      obtain ⟨front, callsEq, quiet, -⟩ := dropWorker_calls (finished_of_run ran)
      refine (forall_eq_some found _).trans ?_
      refine Iff.trans ?_ (forall_eq_some (rfl : seen world _ = some (.dropScope number)) _).symm
      refine Iff.trans ?_ (Values.forall_scope found _).symm
      unfold ServesWell
      rw [callsEq]
      exact (Interface.served_iff_of_ending quiet rfl).trans List.forall_mem_singleton
  | createEp number slot epParams oracle =>
      obtain ⟨worker, found, -⟩ := Option.bind_eq_some_iff.mp moved
      obtain ⟨label, isSeen, onScope⟩ := seen_createEp found
      refine (forall_eq_some found _).trans ?_
      refine Iff.trans ?_ (forall_eq_some isSeen _).symm
      exact (servesWell_worker (createEp_acts worker epParams)).trans (onScope.sound_iff found).symm
  | callWorker number slot method oracle =>
      obtain ⟨worker, found, -⟩ := Option.bind_eq_some_iff.mp moved
      obtain ⟨label, isSeen, onScope⟩ := seen_callWorker found
      refine (forall_eq_some found _).trans ?_
      refine Iff.trans ?_ (forall_eq_some isSeen _).symm
      exact (servesWell_worker (method.acts worker)).trans (onScope.sound_iff found).symm
  | callEp slot target method oracle =>
      obtain ⟨owned, found, rest⟩ := Option.bind_eq_some_iff.mp moved
      obtain ⟨program, isProgram, -⟩ := Option.bind_eq_some_iff.mp rest
      obtain ⟨label, isSeen, onValue⟩ := seen_callEp found isProgram
      refine (forall_eq_some_two found isProgram _).trans ?_
      refine Iff.trans ?_ (forall_eq_some isSeen _).symm
      exact (servesWell_value (EpMethod.acts isProgram)).trans (onValue.sound_iff found).symm
  | callRequest slot method oracle =>
      obtain ⟨owned, found, rest⟩ := Option.bind_eq_some_iff.mp moved
      obtain ⟨program, isProgram, -⟩ := Option.bind_eq_some_iff.mp rest
      refine (forall_eq_some_two found isProgram _).trans ?_
      refine Iff.trans ?_ (forall_eq_some (rfl : seen world _ = some (.use slot)) _).symm
      exact (servesWell_value (RequestMethod.acts isProgram)).trans
        (OnValue.use.sound_iff found).symm
  | cancelRequest number slot oracle =>
      obtain ⟨worker, found, rest⟩ := Option.bind_eq_some_iff.mp moved
      obtain ⟨owned, foundValue, rest⟩ := Option.bind_eq_some_iff.mp rest
      obtain ⟨program, isProgram, -⟩ := Option.bind_eq_some_iff.mp rest
      refine (forall_eq_some_three found foundValue isProgram _).trans ?_
      refine Iff.trans ?_ (forall_eq_some (rfl : seen world _ = some (.join number slot)) _).symm
      have joined : Sound (view world) (.join number slot) ↔ _ :=
        Values.matches_iff found foundValue
      refine Iff.trans ?_ joined.symm
      exact ((cancelRequestProgram_acts isProgram).actsOn.served_iff _ _ _).trans
        (stand_pair_iff holding _ _ _ _)
  | cancel number slot oracle =>
      obtain ⟨worker, found, rest⟩ := Option.bind_eq_some_iff.mp moved
      obtain ⟨owned, foundValue, rest⟩ := Option.bind_eq_some_iff.mp rest
      obtain ⟨program, isProgram, rest⟩ := Option.bind_eq_some_iff.mp rest
      obtain ⟨⟨result, between⟩, ran, -⟩ := Option.bind_eq_some_iff.mp rest
      refine (forall_eq_some_three found foundValue isProgram _).trans ?_
      refine Iff.trans ?_
        (forall_eq_some (rfl : seen world _ = some (.joinDrop number slot)) _).symm
      have joined : Sound (view world) (.joinDrop number slot) ↔ _ :=
        Values.matches_iff found foundValue
      refine Iff.trans ?_ joined.symm
      refine Iff.trans ?_ (stand_pair_iff holding _ worker.handle owned.value owned.number)
      unfold ServesWell
      obtain ⟨first, last, callsEq, named, calm, ends⟩ := cancelProgram_calls isProgram
        (finished_of_run ran)
      have quiet : ∀ call ∈ [first], interface.Quiet _ call := fun call member =>
        List.mem_singleton.mp member ▸ calm.1
      rw [callsEq, Interface.served_append,
        Interface.foldl_serve_of_quiet quiet, Interface.served_singleton named,
        Interface.served_singleton ends.named]
      refine and_iff_left_of_imp fun stand argument member => ?_
      exact stand argument (List.mem_cons_of_mem _ member)
  | dispose slot disposal oracle =>
      obtain ⟨owned, found, rest⟩ := Option.bind_eq_some_iff.mp moved
      obtain ⟨program, isProgram, -⟩ := Option.bind_eq_some_iff.mp rest
      refine (forall_eq_some_two found isProgram _).trans ?_
      unfold ServesWell
      rcases Disposal.disposed isProgram with
        ⟨front, last, callsEq, endedBy⟩ | ⟨ep, worker, same, callsEq⟩
      · have isSeen := seen_dispose_ended found isProgram callsEq endedBy.ends
        refine Iff.trans ?_ (forall_eq_some isSeen _).symm
        refine Iff.trans ?_ (Values.forall_child found _).symm
        have quiet : ∀ call ∈ front, interface.Quiet [.object owned.value.object] call :=
          fun call member => (endedBy.calm call member).1
        rw [callsEq]
        exact (Interface.served_iff_of_ending quiet endedBy.ends.named).trans
          (stand_value_iff world.values.tables owned)
      · have isSeen := seen_dispose_late found isProgram callsEq
        rw [callsEq]
        refine iff_of_true ⟨fun _ absent => (by cases absent), trivial⟩ ?_
        exact (forall_eq_some isSeen _).mpr trivial

/-- A worker and its endpoints share the flag of the worker's number, and the flag of a
worker that was dropped is down. -/
structure FlagsTell (world : World) : Prop where
  workers : ∀ number worker, world.values.keepers number = some worker →
    worker.alive = ⟨number⟩ ∧ number < world.values.opened
  eps : ∀ slot owned, world.values.owned slot = some owned →
    ∀ ep worker, owned.value = .ep ep worker →
      ep.workerAlive = ⟨owned.number⟩ ∧ owned.number < world.values.opened
  lowered : ∀ number < world.values.opened, world.values.keepers number = none →
    world.flags ⟨number⟩ = false

namespace FlagsTell

theorem createWorker (tell : FlagsTell world) (handle : WorkerHandle) :
    FlagsTell { world with
      values := Values.addKeeper holding world.values ⟨handle, ⟨world.values.opened⟩⟩ } := by
  have isOlder : ∀ {number}, number < world.values.opened → number < world.values.opened + 1 :=
    fun older => Nat.lt_succ_of_lt older
  constructor
  · intro number worker found
    by_cases same : number = world.values.opened
    · subst same
      have isNew : some (⟨handle, ⟨world.values.opened⟩⟩ : Worker) = some worker :=
        (Function.update_self _ _ world.values.keepers).symm.trans found
      cases isNew
      exact ⟨rfl, Nat.lt_succ_self _⟩
    · have before := (Function.update_of_ne same ..).symm.trans found
      exact (tell.workers number worker before).imp_right isOlder
  · intro slot owned found ep worker isEp
    exact (tell.eps slot owned found ep worker isEp).imp_right isOlder
  · intro number bound closed
    by_cases same : number = world.values.opened
    · subst same
      cases (Function.update_self ..).symm.trans closed
    · have before := (Function.update_of_ne same ..).symm.trans closed
      have older : number < world.values.opened :=
        Nat.lt_of_le_of_ne (Nat.le_of_lt_succ bound) same
      exact tell.lowered number older before

theorem dropWorker (tell : FlagsTell world) {number : Nat} {worker : Worker}
    (found : world.values.keepers number = some worker)
    (tables : Tables WorkerHandle Object) :
    FlagsTell ⟨Values.removeKeeper { world.values with tables := tables } number,
      Function.update world.flags worker.alive false⟩ := by
  constructor
  · intro other worker found
    by_cases same : other = number
    · subst same
      cases (Function.update_self ..).symm.trans found
    · exact tell.workers other worker ((Function.update_of_ne same ..).symm.trans found)
  · exact tell.eps
  · intro other bound closed
    by_cases same : other = number
    · subst same
      rw [(tell.workers other worker found).1]
      exact Function.update_self ..
    · have before := (Function.update_of_ne same ..).symm.trans closed
      have lower := tell.lowered other bound before
      by_cases isFlag : AliveFlag.mk other = worker.alive
      · rw [isFlag]
        exact Function.update_self ..
      · exact (Function.update_of_ne isFlag ..).trans lower

theorem addValue (tell : FlagsTell world) {number slot : Nat} {value : Value}
    (shares : ∀ ep worker, value = .ep ep worker →
      ep.workerAlive = ⟨number⟩ ∧ number < world.values.opened) :
    FlagsTell { world with
      values := Values.addValue holding world.values number slot value } := by
  constructor
  · exact tell.workers
  · intro index owned found
    by_cases same : index = slot
    · subst same
      have isNew : some (⟨value, number⟩ : Owned Value) = some owned :=
        (Function.update_self _ _ world.values.owned).symm.trans found
      cases isNew
      exact shares
    · exact tell.eps index owned ((Function.update_of_ne same ..).symm.trans found)
  · exact tell.lowered

theorem removeValue (tell : FlagsTell world) (tables : Tables WorkerHandle Object)
    (slot : Nat) :
    FlagsTell { world with
      values := Values.removeValue { world.values with tables := tables } slot } := by
  constructor
  · exact tell.workers
  · intro index owned found
    by_cases same : index = slot
    · subst same
      cases (Function.update_self ..).symm.trans found
    · exact tell.eps index owned ((Function.update_of_ne same ..).symm.trans found)
  · exact tell.lowered

end FlagsTell

theorem flagsTell_initial : FlagsTell World.initial where
  workers _ _ found := by cases found
  eps _ _ found := by cases found
  lowered _ bound := by cases bound

theorem FlagsTell.step {label : Label} (tell : FlagsTell world)
    (moved : step world label = some next) : FlagsTell next := by
  cases label with
  | createWorker handle =>
      obtain ⟨-, added⟩ := Option.ite_none_right_eq_some.mp moved
      cases added
      exact tell.createWorker handle
  | dropWorker number oracle =>
      obtain ⟨worker, found, rest⟩ := Option.bind_eq_some_iff.mp moved
      obtain ⟨⟨result, between⟩, ran, isNext⟩ := Option.bind_eq_some_iff.mp rest
      cases isNext
      obtain rfl := run_dropWorker ran
      exact tell.dropWorker found _
  | createEp number slot epParams oracle =>
      obtain ⟨worker, found, rest⟩ := Option.bind_eq_some_iff.mp moved
      obtain ⟨⟨result, between⟩, ran, added⟩ := Option.bind_eq_some_iff.mp rest
      obtain ⟨resultEq, rfl⟩ := run_of_calm (createEp_acts worker epParams).calm ran
      rcases addEp_eq_some added with ⟨error, rfl, rfl⟩ | ⟨ep, rfl, -, -, rfl⟩
      · exact tell
      · refine tell.addValue fun same owner isEp => ?_
        cases isEp
        have shared := WorkerWorld.newEp_workerAlive resultEq
        rw [shared]
        exact tell.workers number worker found
  | callWorker number slot method oracle =>
      obtain ⟨worker, found, rest⟩ := Option.bind_eq_some_iff.mp moved
      obtain ⟨⟨result, between⟩, ran, added⟩ := Option.bind_eq_some_iff.mp rest
      obtain ⟨-, rfl⟩ := run_of_calm (method.acts worker).calm ran
      rcases addRequest_eq_some added with ⟨rfl, rfl⟩ | ⟨handle, rfl, -, -, rfl⟩
      · exact tell
      · exact tell.addValue (by rintro _ _ ⟨⟩)
  | callEp slot target method oracle =>
      obtain ⟨owned, found, rest⟩ := Option.bind_eq_some_iff.mp moved
      obtain ⟨program, isProgram, rest⟩ := Option.bind_eq_some_iff.mp rest
      obtain ⟨⟨result, between⟩, ran, added⟩ := Option.bind_eq_some_iff.mp rest
      obtain ⟨-, rfl⟩ := run_of_calm (EpMethod.acts isProgram).calm ran
      rcases addRequest_eq_some added with ⟨rfl, rfl⟩ | ⟨handle, rfl, -, -, rfl⟩
      · exact tell
      · exact tell.addValue (by rintro _ _ ⟨⟩)
  | callRequest slot method oracle =>
      obtain ⟨owned, found, rest⟩ := Option.bind_eq_some_iff.mp moved
      obtain ⟨program, isProgram, rest⟩ := Option.bind_eq_some_iff.mp rest
      obtain ⟨⟨result, between⟩, ran, isNext⟩ := Option.bind_eq_some_iff.mp rest
      cases isNext
      obtain ⟨-, rfl⟩ := run_of_calm (RequestMethod.acts isProgram).calm ran
      exact tell
  | cancelRequest number slot oracle =>
      obtain ⟨worker, found, rest⟩ := Option.bind_eq_some_iff.mp moved
      obtain ⟨owned, foundValue, rest⟩ := Option.bind_eq_some_iff.mp rest
      obtain ⟨program, isProgram, rest⟩ := Option.bind_eq_some_iff.mp rest
      obtain ⟨⟨result, between⟩, ran, isNext⟩ := Option.bind_eq_some_iff.mp rest
      cases isNext
      obtain ⟨-, rfl⟩ := run_of_calm (cancelRequestProgram_acts isProgram).calm ran
      exact tell
  | cancel number slot oracle =>
      obtain ⟨worker, found, rest⟩ := Option.bind_eq_some_iff.mp moved
      obtain ⟨owned, foundValue, rest⟩ := Option.bind_eq_some_iff.mp rest
      obtain ⟨program, isProgram, rest⟩ := Option.bind_eq_some_iff.mp rest
      obtain ⟨⟨result, between⟩, ran, isNext⟩ := Option.bind_eq_some_iff.mp rest
      cases isNext
      obtain ⟨first, last, callsEq, -, calm, ends⟩ := cancelProgram_calls isProgram
        (finished_of_run ran)
      have calmAll : ∀ call ∈ [first], Calm _ call := fun call member =>
        List.mem_singleton.mp member ▸ calm
      obtain rfl := run_of_ending callsEq calmAll ends ran
      exact tell.removeValue _ slot
  | dispose slot disposal oracle =>
      obtain ⟨owned, found, rest⟩ := Option.bind_eq_some_iff.mp moved
      obtain ⟨program, isProgram, rest⟩ := Option.bind_eq_some_iff.mp rest
      obtain ⟨⟨result, between⟩, ran, isNext⟩ := Option.bind_eq_some_iff.mp rest
      cases isNext
      rcases Disposal.disposed isProgram with
        ⟨front, last, callsEq, endedBy⟩ | ⟨ep, worker, same, callsEq⟩
      · obtain rfl := run_of_ending callsEq endedBy.calm endedBy.ends ran
        exact tell.removeValue _ slot
      · obtain rfl := run_of_late callsEq ran
        exact tell.removeValue _ slot

/-- The worker of an endpoint whose flag is up has not been dropped. -/
theorem FlagsTell.keeps_of_alive (tell : FlagsTell world) {slot : Nat} {owned : Owned Value}
    (found : world.values.owned slot = some owned) {ep : Ep} {worker : WorkerHandle}
    (isEp : owned.value = .ep ep worker) (alive : world.flags ep.workerAlive = true) :
    (world.values.keepers owned.number).isSome := by
  obtain ⟨flag, bound⟩ := tell.eps slot owned found ep worker isEp
  rw [flag] at alive
  by_contra closed
  have none := Option.not_isSome_iff_eq_none.mp closed
  cases (tell.lowered owned.number bound none).symm.trans alive

theorem keepsWorker_iff {label : Label} (tell : FlagsTell world)
    (moved : step world label = some next) :
    KeepsWorker world label ↔ Seen Disciplined view seen world label next := by
  cases label with
  | createWorker handle =>
      refine iff_of_true trivial fun label isSeen => ?_
      cases isSeen
      trivial
  | dropWorker number oracle =>
      refine iff_of_true trivial fun label isSeen => ?_
      cases isSeen
      trivial
  | createEp number slot epParams oracle =>
      obtain ⟨worker, found, -⟩ := Option.bind_eq_some_iff.mp moved
      obtain ⟨label, isSeen, onScope⟩ := seen_createEp found
      exact iff_of_true trivial ((forall_eq_some isSeen _).mpr onScope.disciplined)
  | callWorker number slot method oracle =>
      obtain ⟨worker, found, -⟩ := Option.bind_eq_some_iff.mp moved
      obtain ⟨label, isSeen, onScope⟩ := seen_callWorker found
      exact iff_of_true trivial ((forall_eq_some isSeen _).mpr onScope.disciplined)
  | callEp slot target method oracle =>
      obtain ⟨owned, found, rest⟩ := Option.bind_eq_some_iff.mp moved
      obtain ⟨program, isProgram, -⟩ := Option.bind_eq_some_iff.mp rest
      obtain ⟨label, isSeen, onValue⟩ := seen_callEp found isProgram
      refine (forall_eq_some found _).trans ?_
      exact (onValue.disciplined_iff found).symm.trans (forall_eq_some isSeen _).symm
  | callRequest slot method oracle =>
      obtain ⟨owned, found, -⟩ := Option.bind_eq_some_iff.mp moved
      refine (forall_eq_some found _).trans ?_
      refine Iff.trans ?_ (forall_eq_some (rfl : seen world _ = some (.use slot)) _).symm
      exact (OnValue.use.disciplined_iff found).symm
  | cancelRequest number slot oracle =>
      obtain ⟨worker, -, rest⟩ := Option.bind_eq_some_iff.mp moved
      obtain ⟨owned, found, -⟩ := Option.bind_eq_some_iff.mp rest
      refine (forall_eq_some found _).trans ?_
      refine Iff.trans ?_ (forall_eq_some (rfl : seen world _ = some (.join number slot)) _).symm
      exact (Values.forall_child found fun child => number = child.number).symm
  | cancel number slot oracle =>
      obtain ⟨worker, -, rest⟩ := Option.bind_eq_some_iff.mp moved
      obtain ⟨owned, found, -⟩ := Option.bind_eq_some_iff.mp rest
      refine (forall_eq_some found _).trans ?_
      refine Iff.trans ?_
        (forall_eq_some (rfl : seen world _ = some (.joinDrop number slot)) _).symm
      exact (Values.forall_child found fun child => number = child.number).symm
  | dispose slot disposal oracle =>
      obtain ⟨owned, found, rest⟩ := Option.bind_eq_some_iff.mp moved
      obtain ⟨program, isProgram, -⟩ := Option.bind_eq_some_iff.mp rest
      refine (forall_eq_some found _).trans ?_
      rcases Disposal.disposed isProgram with
        ⟨front, last, callsEq, endedBy⟩ | ⟨ep, worker, same, callsEq⟩
      · have isSeen := seen_dispose_ended found isProgram callsEq endedBy.ends
        refine Iff.trans ?_ (forall_eq_some isSeen _).symm
        have isOpen := (Values.forall_child found (view world).IsOpen).trans Values.isOpen_iff
        refine Iff.trans ⟨fun keeps => ?_, fun kept _ => kept⟩ isOpen.symm
        rcases isEp : owned.value with ⟨ep, worker⟩ | ⟨handle, worker⟩
        · exact tell.keeps_of_alive found isEp (endedBy.alive ep worker isEp)
        · rw [isEp] at keeps
          exact keeps rfl
      · have isSeen := seen_dispose_late found isProgram callsEq
        refine iff_of_true (fun isLate => ?_) ((forall_eq_some isSeen _).mpr trivial)
        rw [same] at isLate
        cases isLate

theorem DropsWorkerLast.seen {label : Label} (ordered : DropsWorkerLast world label)
    (moved : step world label = some next) : Seen DropsEmpty view seen world label next := by
  cases label with
  | createWorker handle => exact (forall_eq_some rfl _).mpr trivial
  | dropWorker number oracle =>
      refine (forall_eq_some rfl _).mpr fun slot child isChild => ?_
      obtain ⟨owned, found, rfl⟩ := Option.map_eq_some_iff.mp isChild
      exact ordered slot owned found
  | createEp number slot epParams oracle =>
      obtain ⟨worker, found, -⟩ := Option.bind_eq_some_iff.mp moved
      obtain ⟨label, isSeen, onScope⟩ := seen_createEp found
      exact (forall_eq_some isSeen _).mpr onScope.dropsEmpty
  | callWorker number slot method oracle =>
      obtain ⟨worker, found, -⟩ := Option.bind_eq_some_iff.mp moved
      obtain ⟨label, isSeen, onScope⟩ := seen_callWorker found
      exact (forall_eq_some isSeen _).mpr onScope.dropsEmpty
  | callEp slot target method oracle =>
      obtain ⟨owned, found, rest⟩ := Option.bind_eq_some_iff.mp moved
      obtain ⟨program, isProgram, -⟩ := Option.bind_eq_some_iff.mp rest
      obtain ⟨label, isSeen, onValue⟩ := seen_callEp found isProgram
      exact (forall_eq_some isSeen _).mpr onValue.dropsEmpty
  | callRequest slot method oracle => exact (forall_eq_some rfl _).mpr trivial
  | cancelRequest number slot oracle =>
      obtain ⟨worker, -, rest⟩ := Option.bind_eq_some_iff.mp moved
      obtain ⟨owned, found, -⟩ := Option.bind_eq_some_iff.mp rest
      refine (forall_eq_some rfl _).mpr ?_
      exact (Values.forall_child found fun child => number = child.number).mpr
        (ordered owned found)
  | cancel number slot oracle =>
      obtain ⟨worker, -, rest⟩ := Option.bind_eq_some_iff.mp moved
      obtain ⟨owned, found, -⟩ := Option.bind_eq_some_iff.mp rest
      refine (forall_eq_some rfl _).mpr ?_
      exact (Values.forall_child found fun child => number = child.number).mpr
        (ordered owned found)
  | dispose slot disposal oracle =>
      obtain ⟨owned, found, rest⟩ := Option.bind_eq_some_iff.mp moved
      obtain ⟨program, isProgram, -⟩ := Option.bind_eq_some_iff.mp rest
      refine (forall_eq_some (seen_dispose found isProgram) _).mpr ?_
      split <;> trivial

end Simulation

/-- In every run of workers, endpoints and requests, and whatever UCX answers: everything
that the code gives to UCX is open and belongs to the right worker, exactly if endpoints
are used, and requests used and dropped, before the worker that they were created on, and
requests are cancelled on it.  Endpoints may be dropped late, as their drops see the flag;
cancelling so and dropping each worker last is enough for the rest.  The flush request of
a worker's own drop never leaves that drop and is no request of these. -/
theorem requests_stand_iff_worker_kept (run : List Label) :
    (EveryStep step (fun world label _ => GivesOpen world label) World.initial run ↔
      EveryStep step (fun world label _ => KeepsWorker world label) World.initial run) ∧
    (EveryStep step (fun world label _ => DropsWorkerLast world label) World.initial run →
      EveryStep step (fun world label _ => GivesOpen world label) World.initial run) := by
  constructor
  · exact @gives_iff_keeps _ _ _ _ _ _ step view seen _ _ FlagsTell _ simulates
      givesOpen_iff keepsWorker_iff FlagsTell.step rfl flagsTell_initial run
  · exact gives_of_ordered simulates givesOpen_iff DropsWorkerLast.seen rfl

end RequestLifetimes

end UcxRs
