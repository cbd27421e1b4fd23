import UcxRs.SharedCells
import UcxRs.TransitionRuns
import UcxRs.WorkerCalls

/-!
# Where remote keys come from

A remote key does not name its worker: it holds a clone of the worker's liveness
flag, passed on by the endpoint that unpacked it, and a comparison tells workers
apart by the address of that flag.  In this file workers, endpoints and keys are
created and dropped in any order, the flags are reference-counted cells, and a
new flag takes any free address, so also one where the flag of a dropped worker
was.  Each value is created with the number of its worker, which the code does
not see; a comparison finds out exactly whether the three numbers agree.
-/

namespace UcxRs

namespace KeyProvenance

open Interaction (Environment Execution)
open Interaction.Program
open SharedCells (Heap Pointer Tracked)
open TransitionRuns (EveryStep)
open WorkerWorld (Storeless WorkerDropCall CleanupCall)

/-- What calls leave in the flags. -/
def store (heap : Heap AliveFlag Bool) : Call → Heap AliveFlag Bool
  | .storeAlive flag value => heap.write flag value
  | _ => heap

def stored (heap : Heap AliveFlag Bool) (calls : List Call) : Heap AliveFlag Bool :=
  calls.foldl store heap

/-- A load reads its flag; UCX answers from an oracle. -/
def answering (heap : Heap AliveFlag Bool) (oracle : Environment Call Answer) :
    Environment Call Answer :=
  fun history call =>
    match call with
    | .loadAlive flag => (stored heap history).value flag
    | .storeAlive _ _ => some ()
    | call => oracle history call

inductive Value where
  | worker (worker : Worker)
  | ep (ep : Ep)
  | rkey (rkey : RemoteKey)
  deriving DecidableEq, Repr

def Value.flag : Value → AliveFlag
  | .worker owner => owner.alive
  | .ep endpoint => endpoint.workerAlive
  | .rkey key => key.workerAlive

def Value.isWorker : Value → Bool
  | .worker _ => true
  | _ => false

/-- A value and the number of the worker that it comes from. -/
structure Created where
  value : Value
  creator : Nat
  deriving DecidableEq, Repr

def Created.pointer (created : Created) : Pointer AliveFlag :=
  ⟨created.value.flag, created.creator⟩

/-- The values that exist, the flags they point at and the number of workers
that were created. -/
structure World where
  objects : List Created
  heap : Heap AliveFlag Bool
  workers : Nat

namespace World

def initial : World where
  objects := []
  heap := fun _ => none
  workers := 0

def run {Result : Type} (world : World) (oracle : Environment Call Answer)
    (program : Ffi Result) : Execution Call Result :=
  program.execute (answering world.heap oracle) []

def after (world : World) (calls : List Call) : World :=
  { world with heap := stored world.heap calls }

/-- A worker whose flag is allocated at a free address. -/
def newWorker (world : World) (handle : WorkerHandle) (flag : AliveFlag) : World where
  objects := world.objects ++ [⟨.worker ⟨handle, flag⟩, world.workers⟩]
  heap := world.heap.alloc flag true
  workers := world.workers + 1

/-- A value that holds a clone of a flag. -/
def share (world : World) (value : Value) (creator : Nat) : World :=
  { world with
    objects := world.objects ++ [⟨value, creator⟩]
    heap := world.heap.clone value.flag }

/-- The value of a creation that succeeded. -/
def addMade {Made : Type} (world : World) (value : Made → Value) (creator : Nat) :
    Option (Except Status Made) → World
  | some (.ok made) => world.share (value made) creator
  | _ => world

/-- A value is gone after its last calls; its reference is given back or kept. -/
def remove (world : World) (index : Nat) (flag : AliveFlag) (calls : List Call)
    (releases : Bool) : World :=
  let heap := stored world.heap calls
  { world with
    objects := world.objects.eraseIdx index
    heap := if releases then heap.release flag else heap }

end World

/-- How a value ends.  The methods that take an endpoint by value keep its
reference to the flag (`ManuallyDrop`), as does `mem::forget`. -/
inductive Disposal where
  | drop
  | close (worker : Nat) (flags : BitVec 32)
  | destroy
  | disconnectNb
  | forget
  deriving DecidableEq, Repr

/-- The program of a disposal, and whether it gives the reference back. -/
def Disposal.resolve (world : World) : Disposal → Value → Option (Ffi Unit × Bool)
  | drop, .worker worker => some (worker.drop, true)
  | drop, .ep ep => some (ep.drop, true)
  | drop, .rkey rkey => some (rkey.drop, true)
  | close index flags, .ep ep =>
      match world.objects[index]? with
      | some ⟨.worker worker, _⟩ => some ((fun _ => ()) <$> ep.close worker flags, false)
      | _ => none
  | destroy, .ep ep => some (ep.destroy, false)
  | disconnectNb, .ep ep => some ((fun _ => ()) <$> ep.disconnectNb, false)
  | forget, _ => some (pure (), false)
  | _, _ => none

/-- Values are given by their index.  Creating an endpoint is `Ep::new`, which
`Worker::create_ep` calls. -/
inductive Label where
  | newWorker (handle : WorkerHandle) (flag : AliveFlag)
  | newEp (worker : Nat) (params : Ep.Params) (oracle : Environment Call Answer)
  | unpack (ep : Nat) (rkeyBuffer : List (BitVec 8)) (oracle : Environment Call Answer)
  | compare (first second worker : Nat) (oracle : Environment Call Answer)
  | dispose (object : Nat) (disposal : Disposal) (oracle : Environment Call Answer)

def step (world : World) : Label → Option World
  | .newWorker handle flag =>
      -- an allocation never returns an address that is in use
      if world.heap flag = none then some (world.newWorker handle flag) else none
  | .newEp index params oracle =>
      match world.objects[index]? with
      | some ⟨.worker worker, creator⟩ =>
          let execution := world.run oracle (Ep.new params worker)
          some ((world.after execution.calls).addMade .ep creator execution.result)
      | _ => none
  | .unpack index rkeyBuffer oracle =>
      match world.objects[index]? with
      | some ⟨.ep ep, creator⟩ =>
          let execution := world.run oracle (RemoteKey.unpack ep rkeyBuffer)
          some ((world.after execution.calls).addMade .rkey creator execution.result)
      | _ => none
  | .compare first second owner oracle =>
      match world.objects[first]?, world.objects[second]?, world.objects[owner]? with
      | some ⟨.rkey rkey, _⟩, some ⟨.rkey other, _⟩, some ⟨.worker worker, _⟩ =>
          some (world.after (world.run oracle (rkey.compare other worker)).calls)
      | _, _, _ => none
  | .dispose index disposal oracle => do
      let created ← world.objects[index]?
      let (program, releases) ← disposal.resolve world created.value
      let execution := world.run oracle program
      some (world.remove index created.value.flag execution.calls
        (releases && execution.result.isSome))

def isLoad : Call → Bool
  | .loadAlive _ => true
  | _ => false

def compareCall (rkey other : RemoteKey) (worker : Worker) : Call :=
  .ucpRkeyCompare worker.handle rkey.handle other.handle ⟨0⟩

/-- Zero means that the keys refer to the same memory. -/
def compareResult (answer : UcsStatus × BitVec 32) : Except Status Bool :=
  (statusToResult answer.1).map fun _ => answer.2 == 0

/-- The two loads of a comparison that goes through. -/
def compareLoads (rkey other : RemoteKey) : List Call :=
  [.loadAlive rkey.workerAlive, .loadAlive other.workerAlive]

/-- A comparison of two keys on a worker, all of which exist, asks UCX about the
handles if both keys come from this worker, and otherwise refuses without a call of
UCX. -/
def ComparesSoundly (world : World) : Label → Prop
  | .compare first second owner oracle =>
      ∀ {rkey other worker creator otherCreator number},
        world.objects[first]? = some ⟨.rkey rkey, creator⟩ →
        world.objects[second]? = some ⟨.rkey other, otherCreator⟩ →
        world.objects[owner]? = some ⟨.worker worker, number⟩ →
        let execution := world.run oracle (rkey.compare other worker)
        if creator = number ∧ otherCreator = number then
          execution.calls = compareLoads rkey other ++ [compareCall rkey other worker] ∧
          execution.result =
            (oracle (compareLoads rkey other) (compareCall rkey other worker)).map compareResult
        else
          execution.result = some (.error .errInvalidParam) ∧
          ∀ call ∈ execution.calls, isLoad call = true
  | _ => True

section Stores

variable {heap : Heap AliveFlag Bool} {pointers : List (Pointer AliveFlag)} {next : Nat}
  {flag : AliveFlag} {calls : List Call}

theorem tracked_stored (tracked : Tracked heap pointers next) (calls : List Call) :
    Tracked (stored heap calls) pointers next := by
  induction calls generalizing heap with
  | nil => exact tracked
  | cons call calls ih =>
      have once : Tracked (store heap call) pointers next := by
        cases call with
        | storeAlive flag value => exact tracked.write flag value
        | _ => exact tracked
      exact ih once

/-- A flag that no call stores to keeps its value. -/
theorem value_stored (spared : ∀ call ∈ calls, ∀ value, call ≠ .storeAlive flag value) :
    (stored heap calls).value flag = heap.value flag := by
  induction calls generalizing heap with
  | nil => rfl
  | cons call calls ih =>
      have once : (store heap call).value flag = heap.value flag := by
        cases call with
        | storeAlive written value =>
            have differs : flag ≠ written := by
              rintro rfl
              exact spared _ List.mem_cons_self value rfl
            exact Heap.value_write_of_ne differs
        | _ => rfl
      have rest : (stored (store heap call) calls).value flag = (store heap call).value flag :=
        ih fun later member => spared later (List.mem_cons_of_mem call member)
      exact rest.trans once

end Stores

/-- The flags count what points at them, a number belongs to at most one worker
that exists, and the flag of a worker that exists is true. -/
structure Sound (world : World) : Prop where
  tracked : Tracked world.heap (world.objects.map Created.pointer) world.workers
  oneWorker : world.objects.Pairwise fun first second =>
    first.value.isWorker = true → second.value.isWorker = true →
      first.creator ≠ second.creator
  alive : ∀ created ∈ world.objects, created.value.isWorker = true →
    world.heap.value created.value.flag = some true

namespace Sound

variable {world : World} {created first second : Created} {index : Nat}

theorem initial : Sound World.initial :=
  ⟨Tracked.initial, List.Pairwise.nil, fun _ member => absurd member List.not_mem_nil⟩

/-- Values of one worker share their flag, and values that share a flag are of
one worker. -/
theorem same_flag_iff (sound : Sound world) (memberFirst : first ∈ world.objects)
    (memberSecond : second ∈ world.objects) :
    first.value.flag = second.value.flag ↔ first.creator = second.creator :=
  sound.tracked.oneOrigin first.pointer (List.mem_map_of_mem memberFirst)
    second.pointer (List.mem_map_of_mem memberSecond)

/-- A value's flag is allocated. -/
theorem loads (sound : Sound world) (member : created ∈ world.objects) :
    ∃ value, world.heap.value created.value.flag = some value := by
  obtain ⟨cell, found⟩ := sound.tracked.allocated (List.mem_map_of_mem member)
  have held : world.heap created.value.flag = some cell := found
  exact ⟨cell.value, by rw [Heap.value, held]; rfl⟩

/-- A program that stores nothing. -/
theorem after (sound : Sound world) {Result : Type} {program : Ffi Result}
    (storeless : program.EveryCall Storeless) (oracle : Environment Call Answer) :
    Sound (world.after (world.run oracle program).calls) := by
  have tracked := tracked_stored sound.tracked (world.run oracle program).calls
  refine ⟨tracked, sound.oneWorker, fun created member isWorker => ?_⟩
  have kept : (world.after (world.run oracle program).calls).heap.value created.value.flag =
      world.heap.value created.value.flag :=
    value_stored fun call made value =>
      storeless.of_mem_calls made created.value.flag value
  exact kept.trans (sound.alive created member isWorker)

theorem newWorker (sound : Sound world) {flag : AliveFlag} (free : world.heap flag = none)
    (handle : WorkerHandle) : Sound (world.newWorker handle flag) := by
  have elsewhere : ∀ created ∈ world.objects, created.value.flag ≠ flag := by
    rintro created member rfl
    obtain ⟨value, loaded⟩ := sound.loads member
    rw [Heap.value, free] at loaded
    cases loaded
  constructor
  case tracked =>
    have tracked := sound.tracked.alloc free true
    unfold World.newWorker
    rw [List.map_append]
    exact tracked
  case oneWorker =>
    refine List.pairwise_append.mpr ⟨sound.oneWorker, List.pairwise_singleton _ _, ?_⟩
    intro first member second isNew _ _
    rw [List.mem_singleton.mp isNew]
    have past := sound.tracked.past first.pointer (List.mem_map_of_mem member)
    exact Nat.ne_of_lt past
  case alive =>
    intro created member isWorker
    rcases List.mem_append.mp member with before | new
    · have kept : (world.heap.alloc flag true).value created.value.flag =
          world.heap.value created.value.flag :=
        Heap.value_alloc_of_ne (elsewhere created before)
      exact kept.trans (sound.alive created before isWorker)
    · rw [List.mem_singleton.mp new]
      exact Heap.value_alloc_self

theorem share (sound : Sound world) (member : created ∈ world.objects) {value : Value}
    (sameFlag : value.flag = created.value.flag) (notWorker : value.isWorker = false) :
    Sound (world.share value created.creator) := by
  have samePointer : Created.pointer ⟨value, created.creator⟩ = created.pointer := by
    unfold Created.pointer
    rw [sameFlag]
  constructor
  case tracked =>
    have tracked := sound.tracked.clone (List.mem_map_of_mem member)
    unfold World.share
    rw [List.map_append, List.map_singleton, samePointer, sameFlag]
    exact tracked
  case oneWorker =>
    refine List.pairwise_append.mpr ⟨sound.oneWorker, List.pairwise_singleton _ _, ?_⟩
    intro first _ second isNew _ isWorker
    rw [List.mem_singleton.mp isNew, notWorker] at isWorker
    cases isWorker
  case alive =>
    intro other isMember isWorker
    rcases List.mem_append.mp isMember with before | new
    · exact Heap.value_clone.trans (sound.alive other before isWorker)
    · rw [List.mem_singleton.mp new, notWorker] at isWorker
      cases isWorker

/-- The end of a value whose last calls leave the flags of the other workers
alone. -/
theorem remove (sound : Sound world) (found : world.objects[index]? = some created)
    {calls : List Call}
    (spared : ∀ other ∈ world.objects.eraseIdx index, other.value.isWorker = true →
      ∀ call ∈ calls, ∀ value, call ≠ .storeAlive other.value.flag value)
    (releases : Bool) : Sound (world.remove index created.value.flag calls releases) := by
  have kept : ∀ other ∈ world.objects.eraseIdx index, other.value.isWorker = true →
      (stored world.heap calls).value other.value.flag = some true := by
    intro other member isWorker
    have before := sound.alive other (List.mem_of_mem_eraseIdx member) isWorker
    exact (value_stored (spared other member isWorker)).trans before
  have mapped : (world.objects.eraseIdx index).map Created.pointer =
      (world.objects.map Created.pointer).eraseIdx index := (List.eraseIdx_map _ _ _).symm
  have tracked := tracked_stored sound.tracked calls
  have oneWorker := sound.oneWorker.sublist (List.eraseIdx_sublist world.objects index)
  cases releases with
  | false => exact ⟨by rw [World.remove, mapped]; exact tracked.forget index, oneWorker, kept⟩
  | true =>
      have pointerFound :
          (world.objects.map Created.pointer)[index]? = some created.pointer := by
        rw [List.getElem?_map, found, Option.map_some]
      have released : Tracked ((stored world.heap calls).release created.value.flag)
          ((world.objects.eraseIdx index).map Created.pointer) world.workers := by
        rw [mapped]
        exact tracked.release pointerFound
      refine ⟨released, oneWorker, fun other member isWorker => ?_⟩
      obtain ⟨cell, survives⟩ := released.allocated (List.mem_map_of_mem member)
      exact (Heap.value_release survives).trans (kept other member isWorker)

end Sound

/-- What the last calls of a value may store: only a worker's drop stores, and
only to its own flag. -/
def OwnStore (value : Value) (call : Call) : Prop :=
  ∀ flag stored, call = .storeAlive flag stored → value.isWorker = true ∧ flag = value.flag

theorem ownStore_of_storeless {value : Value} {call : Call} (storeless : Storeless call) :
    OwnStore value call :=
  fun flag stored same => absurd same (storeless flag stored)

theorem cleanup_ownStore {Result : Type} {value : Value} {own : WorkerWorld.ChildHandle}
    {program : Ffi Result} (cleans : program.EveryCall (CleanupCall own)) :
    program.EveryCall (OwnStore value) :=
  cleans.mono fun _ cleanup => ownStore_of_storeless cleanup.2

theorem disposal_calls {world : World} {disposal : Disposal} {value : Value}
    {program : Ffi Unit} {releases : Bool}
    (resolved : disposal.resolve world value = some (program, releases)) :
    program.EveryCall (OwnStore value) := by
  cases disposal with
  | drop =>
      cases value with
      | worker worker =>
          cases resolved
          refine (WorkerWorld.dropWorker_calls worker).mono fun call allowed flag value same => ?_
          exact ⟨rfl, (allowed flag value same).1⟩
      | ep ep =>
          cases resolved
          exact cleanup_ownStore (WorkerWorld.dropEp_calls ep)
      | rkey rkey =>
          cases resolved
          exact cleanup_ownStore (WorkerWorld.dropRkey_calls rkey)
  | close index flags =>
      cases value with
      | ep ep =>
          simp only [Disposal.resolve] at resolved
          split at resolved
          case h_1 worker creator found =>
            cases resolved
            rw [map_eq_pure_bind]
            have closes := WorkerWorld.closeEp_calls ep worker flags
            exact (cleanup_ownStore closes).bind fun _ => everyCall_done _ _
          case h_2 => cases resolved
      | worker worker => cases resolved
      | rkey rkey => cases resolved
  | destroy =>
      cases value with
      | ep ep =>
          cases resolved
          exact cleanup_ownStore (WorkerWorld.destroyEp_calls ep)
      | worker worker => cases resolved
      | rkey rkey => cases resolved
  | disconnectNb =>
      cases value with
      | ep ep =>
          cases resolved
          rw [map_eq_pure_bind]
          have disconnects := WorkerWorld.disconnectNb_calls ep
          exact (cleanup_ownStore disconnects).bind fun _ => everyCall_done _ _
      | worker worker => cases resolved
      | rkey rkey => cases resolved
  | forget =>
      have same : (pure (), false) = (program, releases) := by
        cases value <;> exact Option.some.inj resolved
      cases same
      exact everyCall_done _ _

theorem compare_calls (rkey other : RemoteKey) (worker : Worker) :
    (rkey.compare other worker).EveryCall Storeless := by
  refine ⟨by rintro _ _ ⟨⟩, fun (alive : Bool) => ?_⟩
  cases alive with
  | false => exact everyCall_done _ _
  | true =>
      refine ⟨by rintro _ _ ⟨⟩, fun (otherAlive : Bool) => ?_⟩
      change (if _ then _ else _ : Ffi _).EveryCall _
      split
      · exact everyCall_done _ _
      · exact ⟨by rintro _ _ ⟨⟩, fun _ => everyCall_done _ _⟩

namespace Sound

variable {world next : World} {created : Created} {index : Nat}

/-- Another worker that exists is spared, because the value is not of it. -/
theorem spares (sound : Sound world) (found : world.objects[index]? = some created)
    {calls : List Call} (own : ∀ call ∈ calls, OwnStore created.value call) :
    ∀ other ∈ world.objects.eraseIdx index, other.value.isWorker = true →
      ∀ call ∈ calls, ∀ value, call ≠ .storeAlive other.value.flag value := by
  rintro other member isWorker call made value rfl
  obtain ⟨createdIsWorker, sameFlag⟩ := own _ made other.value.flag value rfl
  obtain ⟨within, atIndex⟩ := List.getElem?_eq_some_iff.mp found
  have sameCreator : created.creator = other.creator :=
    (sound.same_flag_iff (List.mem_of_getElem? found) (List.mem_of_mem_eraseIdx member)).mp
      sameFlag.symm
  have first : (world.objects[index] :: world.objects.eraseIdx index).Pairwise _ :=
    (List.getElem_cons_eraseIdx_perm within).symm.pairwise sound.oneWorker
      fun distinct secondIsWorker firstIsWorker =>
        (distinct firstIsWorker secondIsWorker).symm
  rw [atIndex] at first
  exact List.rel_of_pairwise_cons first member createdIsWorker isWorker sameCreator

/-- A creation whose value, if it is made, holds the flag of an existing value. -/
theorem addMade (sound : Sound world) (member : created ∈ world.objects) {Made : Type}
    {value : Made → Value} (notWorker : ∀ made, (value made).isWorker = false)
    {result : Option (Except Status Made)}
    (sameFlag : ∀ made, result = some (.ok made) → (value made).flag = created.value.flag) :
    Sound (world.addMade value created.creator result) := by
  rcases result with _ | error | made
  · exact sound
  · exact sound
  · exact sound.share member (sameFlag made rfl) (notWorker made)

theorem step {label : Label} (sound : Sound world)
    (stepEq : step world label = some next) : Sound next := by
  cases label with
  | newWorker handle flag =>
      obtain ⟨free, stepEq⟩ := Option.ite_none_right_eq_some.mp stepEq
      cases stepEq
      exact sound.newWorker free handle
  | newEp index params oracle =>
      simp only [KeyProvenance.step] at stepEq
      split at stepEq
      case h_1 worker creator found =>
        cases stepEq
        have made := sound.after (WorkerWorld.newEp_calls params worker) oracle
        exact made.addMade (List.mem_of_getElem? found) (fun _ => rfl)
          fun ep => WorkerWorld.newEp_workerAlive
      case h_2 => cases stepEq
  | unpack index rkeyBuffer oracle =>
      simp only [KeyProvenance.step] at stepEq
      split at stepEq
      case h_1 ep creator found =>
        cases stepEq
        have made := sound.after (WorkerWorld.unpack_calls ep rkeyBuffer) oracle
        exact made.addMade (List.mem_of_getElem? found) (fun _ => rfl)
          fun rkey => WorkerWorld.unpack_workerAlive
      case h_2 => cases stepEq
  | compare first second owner oracle =>
      simp only [KeyProvenance.step] at stepEq
      split at stepEq
      case h_1 rkey _ other _ worker _ _ _ _ =>
        cases stepEq
        exact sound.after (compare_calls rkey other worker) oracle
      case h_2 => cases stepEq
  | dispose index disposal oracle =>
      obtain ⟨created, found, stepEq⟩ := Option.bind_eq_some_iff.mp stepEq
      obtain ⟨⟨program, releases⟩, resolved, stepEq⟩ := Option.bind_eq_some_iff.mp stepEq
      cases stepEq
      exact sound.remove found (sound.spares found fun call member =>
        (disposal_calls resolved).of_mem_calls member) _

end Sound

section Compare

variable {environment : Environment Call Answer} {rkey other : RemoteKey} {worker : Worker}
  {alive otherAlive : Bool}

/-- Two live keys of the worker. -/
theorem compare_asks
    (firstLoad : environment [] (.loadAlive rkey.workerAlive) = some true)
    (secondLoad : environment [.loadAlive rkey.workerAlive] (.loadAlive other.workerAlive) =
      some true)
    (sameKeys : rkey.workerAlive = other.workerAlive)
    (sameWorker : rkey.workerAlive = worker.alive) :
    (rkey.compare other worker).execute environment [] =
      ⟨(environment (compareLoads rkey other) (compareCall rkey other worker)).map compareResult,
        compareLoads rkey other ++ [compareCall rkey other worker]⟩ := by
  have passes : (!true || rkey.workerAlive != other.workerAlive ||
      rkey.workerAlive != worker.alive) = false := by
    rw [bne_eq_false_iff_eq.mpr sameKeys, bne_eq_false_iff_eq.mpr sameWorker]
    rfl
  have asked : (Interaction.Program.issue (compareCall rkey other worker) fun answer =>
        .done (compareResult answer)).execute environment (compareLoads rkey other) =
      ⟨(environment (compareLoads rkey other) (compareCall rkey other worker)).map compareResult,
        [compareCall rkey other worker]⟩ :=
    execute_issue_done _ _
  unfold RemoteKey.compare
  simp only [call_bind]
  rw [execute_issue_some firstLoad]
  simp only [Bool.not_true, Bool.false_eq_true, if_false]
  rw [List.nil_append, execute_issue_some secondLoad]
  simp only [passes]
  exact congrArg (fun rest : Execution Call (Except Status Bool) =>
    (rest.after [.loadAlive other.workerAlive]).after [.loadAlive rkey.workerAlive]) asked

/-- A key of another worker, or of none that still exists. -/
theorem compare_refuses
    (firstLoad : environment [] (.loadAlive rkey.workerAlive) = some alive)
    (secondLoad : environment [.loadAlive rkey.workerAlive] (.loadAlive other.workerAlive) =
      some otherAlive)
    (foreign : ¬ (rkey.workerAlive = other.workerAlive ∧ rkey.workerAlive = worker.alive)) :
    let execution := (rkey.compare other worker).execute environment []
    execution.result = some (.error .errInvalidParam) ∧
      ∀ call ∈ execution.calls, isLoad call = true := by
  have refused : (!otherAlive || rkey.workerAlive != other.workerAlive ||
      rkey.workerAlive != worker.alive) = true := by
    by_contra passes
    rw [Bool.not_eq_true, Bool.or_eq_false_iff, Bool.or_eq_false_iff] at passes
    exact foreign ⟨bne_eq_false_iff_eq.mp passes.1.2, bne_eq_false_iff_eq.mp passes.2⟩
  unfold RemoteKey.compare
  simp only [call_bind]
  rw [execute_issue_some firstLoad]
  cases alive with
  | false =>
      refine ⟨rfl, fun call member => ?_⟩
      rw [List.mem_singleton.mp member]
      rfl
  | true =>
      simp only [Bool.not_true, Bool.false_eq_true, if_false]
      rw [List.nil_append, execute_issue_some secondLoad, if_pos refused]
      refine ⟨rfl, fun call member => ?_⟩
      have load : call ∈ compareLoads rkey other := member
      rcases List.mem_pair.mp load with rfl | rfl
      · rfl
      · rfl

end Compare

namespace Sound

variable {world : World} {oracle : Environment Call Answer}

theorem compares (sound : Sound world) (label : Label) : ComparesSoundly world label := by
  cases label with
  | compare first second owner oracle =>
      intro rkey other worker creator otherCreator number found otherFound ownerFound execution
      have member := List.mem_of_getElem? found
      have otherMember := List.mem_of_getElem? otherFound
      have ownerMember := List.mem_of_getElem? ownerFound
      have sameKeys : rkey.workerAlive = other.workerAlive ↔ creator = otherCreator :=
        sound.same_flag_iff member otherMember
      have sameWorker : rkey.workerAlive = worker.alive ↔ creator = number :=
        sound.same_flag_iff member ownerMember
      by_cases ours : creator = number ∧ otherCreator = number
      · have flags : rkey.workerAlive = other.workerAlive ∧ rkey.workerAlive = worker.alive :=
          ⟨sameKeys.mpr (ours.1.trans ours.2.symm), sameWorker.mpr ours.1⟩
        have workerAlive : world.heap.value worker.alive = some true :=
          sound.alive _ ownerMember rfl
        have firstLoad : world.heap.value rkey.workerAlive = some true := by
          rw [flags.2]
          exact workerAlive
        have secondLoad : world.heap.value other.workerAlive = some true := by
          rw [← flags.1]
          exact firstLoad
        have asked : execution = _ := compare_asks firstLoad secondLoad flags.1 flags.2
        rw [if_pos ours, asked]
        exact ⟨rfl, rfl⟩
      · obtain ⟨alive, firstLoad⟩ := sound.loads member
        obtain ⟨otherAlive, secondLoad⟩ := sound.loads otherMember
        have foreign :
            ¬ (rkey.workerAlive = other.workerAlive ∧ rkey.workerAlive = worker.alive) := by
          rintro ⟨keys, owner⟩
          have first := sameWorker.mp owner
          exact ours ⟨first, (sameKeys.mp keys).symm.trans first⟩
        rw [if_neg ours]
        exact compare_refuses firstLoad secondLoad foreign
  | _ => trivial

end Sound

/-- In every run, a comparison calls UCX exactly when both keys come from the
worker that it is made on, and refuses any other pair of keys by itself. -/
theorem keys_compared_on_own_worker (run : List Label) :
    EveryStep step (fun world label _ => ComparesSoundly world label) World.initial run :=
  TransitionRuns.everyStep_of_invariant_before Sound.step (fun sound _ => sound.compares _)
    Sound.initial run

/-- UCX completes everything at once. -/
def obliging : Environment Call Answer
  | _, .ucpEpCreate _ _ => some (.ok, ⟨0x2000⟩)
  | _, .ucpWorkerFlushNbx _ _ => some 0
  | _, .ucpWorkerDestroy _ => some ()
  | _, _ => none

/-- A worker is dropped before its endpoint, and another takes over its flag's
address once nothing points there. -/
def addressTakenOver (disposal : Disposal) : List Label :=
  [.newWorker ⟨0x1000⟩ ⟨0⟩,
    .newEp 0 Ep.ParamsBuilder.new.build.1 obliging,
    .dispose 0 .drop obliging,
    .dispose 0 disposal obliging,
    .newWorker ⟨0x1000⟩ ⟨0⟩]

example :
    (TransitionRuns.runFrom step World.initial (addressTakenOver .drop)).isSome = true ∧
      (TransitionRuns.runFrom step World.initial (addressTakenOver .destroy)).isSome = false := by
  decide

end KeyProvenance

end UcxRs
