import UcxRs.WorkerWorld

/-!
# What the operations call

The calls that an operation of the worker world can make, whatever UCX answers.
Only the drop of a worker stores to a liveness flag, and what it stores is
`false`; a cleanup passes no handle but that of the value it consumes; and a
guard makes progress on the worker it borrows and on no other.
-/

namespace UcxRs

namespace WorkerWorld

open Interaction (Environment Execution Program)
open Interaction.Program
open RequestHandles (grantedRequest isRequestPointer)

/-- The call leaves the liveness flags alone. -/
def Storeless (call : Call) : Prop :=
  ∀ flag value, call ≠ .storeAlive flag value

/-- What a cleanup of a value may call: it passes only the value's handle. -/
def CleanupCall (own : ChildHandle) (call : Call) : Prop :=
  (∀ handle ∈ passedHandles call, handle = own) ∧ Storeless call

/-- What a guard may call: it makes progress on one worker only. -/
def GuardCall (worker : Worker) (call : Call) : Prop :=
  (∀ handle, call = .ucpWorkerProgress handle → handle = worker.handle) ∧ Storeless call

/-- What the drop of a worker may call: it stores `false` in the worker's flag. -/
def WorkerDropCall (worker : Worker) (call : Call) : Prop :=
  ∀ flag value, call = .storeAlive flag value → flag = worker.alive ∧ value = false

variable {Result : Type} {own : ChildHandle}

theorem cleanupCall_of_passes_nothing {call : Call} (passes : passedHandles call = [])
    (storeless : Storeless call) : CleanupCall own call := by
  refine ⟨fun handle passed => ?_, storeless⟩
  rw [passes] at passed
  exact absurd passed List.not_mem_nil

theorem cleanupCall_of_passes_own {call : Call} (passes : passedHandles call = [own])
    (storeless : Storeless call) : CleanupCall own call := by
  refine ⟨fun handle passed => ?_, storeless⟩
  rw [passes] at passed
  exact List.mem_singleton.mp passed

/-- A status query, made by every wait. -/
theorem everyCall_checkFinished {allowed : Call → Prop} (request : Request)
    (check : ∀ handle, allowed (.ucpRequestCheckStatus handle)) :
    request.checkFinished.EveryCall allowed := by
  obtain ⟨_ | handle⟩ := request
  · exact everyCall_done allowed _
  · rw [Request.checkFinished_some]
    exact ⟨check handle, fun _ => trivial⟩

theorem everyCall_free {allowed : Call → Prop} (request : Request)
    (free : ∀ handle, allowed (.ucpRequestFree handle)) :
    request.free.EveryCall allowed := by
  obtain ⟨_ | handle⟩ := request
  · exact everyCall_done allowed _
  · exact ⟨free handle, fun _ => trivial⟩

/-- The wait of a close checks the request, makes progress and frees the
request. -/
theorem everyCall_awaitClose {allowed : Call → Prop} (request : Request) (worker : Worker)
    (check : ∀ handle, allowed (.ucpRequestCheckStatus handle))
    (progress : allowed (.ucpWorkerProgress worker.handle))
    (free : ∀ handle, allowed (.ucpRequestFree handle)) :
    (Ep.awaitClose request worker).EveryCall allowed := by
  unfold Ep.awaitClose
  refine EveryCall.forRounds ?_ (everyCall_done _ _) _
  refine EveryCall.bind (everyCall_checkFinished request check) fun result => ?_
  rcases result with error | _ | _
  · exact everyCall_done _ _
  · exact ⟨progress, fun _ => trivial⟩
  · exact (everyCall_free request free).bind fun _ => everyCall_done _ _

theorem awaitClose_calls (request : Request) (worker : Worker) :
    (Ep.awaitClose request worker).EveryCall (CleanupCall own) := by
  refine everyCall_awaitClose request worker (fun handle => ?_) ?_ fun handle => ?_
  · exact cleanupCall_of_passes_nothing rfl (by rintro _ _ ⟨⟩)
  · exact cleanupCall_of_passes_nothing rfl (by rintro _ _ ⟨⟩)
  · exact cleanupCall_of_passes_nothing rfl (by rintro _ _ ⟨⟩)

theorem closeEp_calls (ep : Ep) (worker : Worker) (flags : BitVec 32) :
    (ep.close worker flags).EveryCall (CleanupCall (.ep ep.handle)) := by
  refine ⟨cleanupCall_of_passes_own rfl (by rintro _ _ ⟨⟩), fun (ptr : Word) => ?_⟩
  rcases resultEq : statusPtrToResult ptr with error | _ | request
  · simp only [andThen, resultEq]
    exact everyCall_done _ _
  · simp only [andThen, resultEq]
    exact everyCall_done _ _
  · simp only [andThen, resultEq]
    exact awaitClose_calls request worker

theorem dropEp_calls (ep : Ep) : ep.drop.EveryCall (CleanupCall (.ep ep.handle)) := by
  refine ⟨cleanupCall_of_passes_nothing rfl (by rintro _ _ ⟨⟩), fun (alive : Bool) => ?_⟩
  cases alive with
  | false => exact everyCall_done _ _
  | true =>
      refine ⟨cleanupCall_of_passes_own rfl (by rintro _ _ ⟨⟩), fun (ptr : Word) => ?_⟩
      rcases resultEq : statusPtrToResult ptr with error | _ | request
      all_goals
        simp only [andThen, resultEq]
        exact everyCall_done _ _

theorem destroyEp_calls (ep : Ep) : ep.destroy.EveryCall (CleanupCall (.ep ep.handle)) := by
  refine ⟨cleanupCall_of_passes_nothing rfl (by rintro _ _ ⟨⟩), fun (alive : Bool) => ?_⟩
  cases alive with
  | false => exact everyCall_done _ _
  | true => exact ⟨cleanupCall_of_passes_own rfl (by rintro _ _ ⟨⟩), fun _ => trivial⟩

theorem disconnectNb_calls (ep : Ep) :
    ep.disconnectNb.EveryCall (CleanupCall (.ep ep.handle)) := by
  refine ⟨cleanupCall_of_passes_nothing rfl (by rintro _ _ ⟨⟩), fun (alive : Bool) => ?_⟩
  cases alive with
  | false => exact everyCall_done _ _
  | true =>
      refine ⟨cleanupCall_of_passes_own rfl (by rintro _ _ ⟨⟩), fun (ptr : Word) => ?_⟩
      rcases resultEq : statusPtrToResult ptr with error | request
      · simp only [andThen, resultEq]
        exact ⟨cleanupCall_of_passes_own rfl (by rintro _ _ ⟨⟩), fun _ => trivial⟩
      · simp only [andThen, resultEq]
        exact everyCall_done _ _

theorem dropRkey_calls (rkey : RemoteKey) :
    rkey.drop.EveryCall (CleanupCall (.rkey rkey.handle)) := by
  unfold RemoteKey.drop
  by_cases null : rkey.handle.address ≠ 0
  · rw [if_pos null]
    exact ⟨cleanupCall_of_passes_own rfl (by rintro _ _ ⟨⟩), fun _ => trivial⟩
  · rw [if_neg null]
    exact everyCall_done _ _

theorem cleanup_calls {world : World} {ep : Ep} {cleanup : Cleanup} {program : Ffi Unit}
    (resolved : cleanup.resolve world ep = some program) :
    program.EveryCall (CleanupCall (.ep ep.handle)) := by
  cases cleanup with
  | drop =>
      cases resolved
      exact dropEp_calls ep
  | close index flags =>
      obtain ⟨worker, _, resolved⟩ := Option.bind_eq_some_iff.mp resolved
      cases resolved
      rw [map_eq_pure_bind]
      exact (closeEp_calls ep worker flags).bind fun _ => everyCall_done _ _
  | destroy =>
      cases resolved
      exact destroyEp_calls ep
  | disconnectNb =>
      cases resolved
      rw [map_eq_pure_bind]
      exact (disconnectNb_calls ep).bind fun _ => everyCall_done _ _

theorem guardCall_of_ne_progress {worker : Worker} {call : Call}
    (other : ∀ handle, call ≠ .ucpWorkerProgress handle) (storeless : Storeless call) :
    GuardCall worker call :=
  ⟨fun handle same => absurd same (other handle), storeless⟩

theorem guardCall_check (worker : Worker) (handle : NonNull) :
    GuardCall worker (.ucpRequestCheckStatus handle) :=
  guardCall_of_ne_progress (by rintro _ ⟨⟩) (by rintro _ _ ⟨⟩)

theorem guardCall_free (worker : Worker) (handle : NonNull) :
    GuardCall worker (.ucpRequestFree handle) :=
  guardCall_of_ne_progress (by rintro _ ⟨⟩) (by rintro _ _ ⟨⟩)

theorem progress_calls (worker : Worker) : worker.progress.EveryCall (GuardCall worker) :=
  ⟨⟨by rintro _ ⟨⟩; rfl, by rintro _ _ ⟨⟩⟩, fun _ => trivial⟩

theorem progressToCompletion_calls (request : Request) (worker : Worker) :
    (progressToCompletion request worker).EveryCall (GuardCall worker) := by
  have freed := (everyCall_free request (guardCall_free worker)).bind
    (fun _ => everyCall_done (GuardCall worker) (some ()))
  unfold progressToCompletion
  refine EveryCall.forRounds ?_ (everyCall_done _ _) _
  refine (everyCall_checkFinished request (guardCall_check worker)).bind fun result => ?_
  rcases result with error | _ | _
  · exact freed
  · exact (progress_calls worker).bind fun _ => everyCall_done _ _
  · exact freed

/-- The tag guard's wait, followed by a program that gets the emptied guard. -/
theorem completeWithin_calls (guard : TagRequest)
    {next : Except Status Unit × TagRequest → Ffi Result}
    (rest : ∀ result, (next (result, ⟨guard.worker, none⟩)).EveryCall (GuardCall guard.worker))
    (remaining : Nat) :
    (guard.completeWithin remaining >>= next).EveryCall (GuardCall guard.worker) := by
  have settled : ∀ result : Except Status Unit,
      ((Request.drop ⟨guard.handle⟩ >>= fun _ => pure (result, ⟨guard.worker, none⟩)) >>=
        next).EveryCall (GuardCall guard.worker) := by
    intro result
    obtain ⟨worker, _ | handle⟩ := guard
    · exact rest result
    · exact ⟨guardCall_free worker handle, fun _ => rest result⟩
  induction remaining with
  | zero =>
      unfold TagRequest.completeWithin TagRequest.checkFinished
      rw [bind_assoc, bind_assoc]
      refine (everyCall_checkFinished _ (guardCall_check _)).bind fun result => ?_
      rcases result with error | _ | _
      · exact settled (.error error)
      · refine ⟨guardCall_of_ne_progress (by rintro _ ⟨⟩) (by rintro _ _ ⟨⟩), ?_⟩
        rintro ⟨⟩
      · exact settled (.ok ())
  | succ remaining ih =>
      unfold TagRequest.completeWithin TagRequest.checkFinished
      rw [bind_assoc, bind_assoc]
      refine (everyCall_checkFinished _ (guardCall_check _)).bind fun result => ?_
      rcases result with error | _ | _
      · exact settled (.error error)
      · exact (progress_calls guard.worker).bind fun _ => ih
      · exact settled (.ok ())

theorem freeGuard_calls (guard : Guard) : guard.free.EveryCall (GuardCall guard.worker) := by
  cases guard with
  | tag guard =>
      change ((fun _ => ()) <$> guard.free).EveryCall (GuardCall guard.worker)
      rw [map_eq_pure_bind]
      refine EveryCall.bind ?_ fun _ => everyCall_done _ _
      refine completeWithin_calls guard (fun result => ?_) 1000000
      -- the emptied guard is dropped silently
      simp only [TagRequest.drop_none]
      exact everyCall_done _ _
  | stream guard =>
      change guard.free.EveryCall (GuardCall guard.worker)
      rw [StreamRequest.free_eq_drop]
      obtain ⟨_ | request, worker, length⟩ := guard
      · exact everyCall_done _ _
      · exact progressToCompletion_calls request worker
  | fetch guard =>
      change guard.free.EveryCall (GuardCall guard.worker)
      rw [FetchAmoRequest.free_eq_drop]
      obtain ⟨_ | request, worker⟩ := guard
      · exact everyCall_done _ _
      · exact progressToCompletion_calls request worker

theorem dropGuard_calls (guard : Guard) : guard.drop.EveryCall (GuardCall guard.worker) := by
  cases guard with
  | tag guard =>
      exact @completeWithin_calls Unit guard (fun _ => pure ()) (fun _ => everyCall_done _ _)
        1000000
  | stream guard =>
      obtain ⟨_ | request, worker, length⟩ := guard
      · exact everyCall_done _ _
      · exact progressToCompletion_calls request worker
  | fetch guard =>
      obtain ⟨_ | request, worker⟩ := guard
      · exact everyCall_done _ _
      · exact progressToCompletion_calls request worker

theorem workerDropCall_of_storeless {worker : Worker} {call : Call}
    (storeless : Storeless call) : WorkerDropCall worker call :=
  fun flag value same => absurd same (storeless flag value)

theorem awaitFlush_calls (worker : Worker) (request : Request) :
    (worker.awaitFlush request).EveryCall (WorkerDropCall worker) := by
  unfold Worker.awaitFlush
  refine EveryCall.forRounds ?_ (everyCall_done _ _) _
  refine EveryCall.bind ?_ fun result => ?_
  · apply everyCall_checkFinished
    intro handle
    exact workerDropCall_of_storeless (by rintro _ _ ⟨⟩)
  · rcases result with error | _ | _
    · exact everyCall_done _ _
    · exact ⟨workerDropCall_of_storeless (by rintro _ _ ⟨⟩), fun _ => trivial⟩
    · exact everyCall_done _ _

theorem dropWorker_calls (worker : Worker) :
    worker.drop.EveryCall (WorkerDropCall worker) := by
  refine ⟨by rintro _ _ ⟨⟩; exact ⟨rfl, rfl⟩, fun _ => ?_⟩
  refine ⟨workerDropCall_of_storeless (by rintro _ _ ⟨⟩), fun (ptr : Word) => ?_⟩
  have destroys : (perform (.ucpWorkerDestroy worker.handle)).EveryCall (WorkerDropCall worker) :=
    ⟨workerDropCall_of_storeless (by rintro _ _ ⟨⟩), fun _ => trivial⟩
  rcases resultEq : statusPtrToResult ptr with error | _ | request
  · simp only [andThen, resultEq]
    exact destroys
  · simp only [andThen, resultEq]
    exact destroys
  · simp only [andThen, resultEq]
    refine (awaitFlush_calls worker request).bind fun _ => ?_
    obtain ⟨_ | handle⟩ := request
    · exact destroys
    · exact ⟨workerDropCall_of_storeless (by rintro _ _ ⟨⟩), fun _ => destroys⟩

/-- The drop of a worker clears its flag first. -/
theorem dropWorker_stores_first (world : World) (worker : Worker)
    (oracle : Environment Call Answer) :
    .storeAlive worker.alive false ∈ (world.run oracle worker.drop).calls :=
  List.mem_cons_self ..

theorem newEp_calls (params : Ep.Params) (worker : Worker) :
    (Ep.new params worker).EveryCall Storeless :=
  ⟨by rintro _ _ ⟨⟩, fun _ => trivial⟩

theorem unpack_calls (ep : Ep) (rkeyBuffer : List (BitVec 8)) :
    (RemoteKey.unpack ep rkeyBuffer).EveryCall Storeless := by
  unfold RemoteKey.unpack
  cases unframeRkeyPayload rkeyBuffer with
  | error error => exact everyCall_done _ _
  | ok payload => exact ⟨by rintro _ _ ⟨⟩, fun _ => trivial⟩

theorem eq_of_map_statusToResult {Handle : Type} {status : UcsStatus} {given result : Handle}
    (mapped : ((statusToResult status).map fun _ => given) = .ok result) : given = result := by
  cases decoded : statusToResult status with
  | error error =>
      rw [decoded] at mapped
      cases mapped
  | ok success =>
      rw [decoded] at mapped
      cases mapped
      rfl

/-- An endpoint holds the flag of the worker that it was created on. -/
theorem newEp_workerAlive {params : Ep.Params} {worker : Worker}
    {environment : Environment Call Answer} {history : List Call} {ep : Ep}
    (created : ((Ep.new params worker).execute environment history).result = some (.ok ep)) :
    ep.workerAlive = worker.alive := by
  have execution : ((Ep.new params worker).execute environment history).result =
      (environment history (.ucpEpCreate worker.handle params.handle)).map
        fun answer : UcsStatus × EpHandle =>
          (statusToResult answer.1).map fun _ => ⟨answer.2, worker.alive⟩ :=
    congrArg Execution.result (execute_issue_done _ _)
  rw [execution] at created
  obtain ⟨answer, _, resultEq⟩ := Option.map_eq_some_iff.mp created
  rw [← eq_of_map_statusToResult resultEq]

/-- A remote key holds the flag of the endpoint that unpacked it. -/
theorem unpack_workerAlive {ep : Ep} {rkeyBuffer : List (BitVec 8)}
    {environment : Environment Call Answer} {history : List Call} {rkey : RemoteKey}
    (created : ((RemoteKey.unpack ep rkeyBuffer).execute environment history).result =
      some (.ok rkey)) : rkey.workerAlive = ep.workerAlive := by
  unfold RemoteKey.unpack at created
  cases framed : unframeRkeyPayload rkeyBuffer with
  | error error =>
      rw [framed] at created
      cases created
  | ok payload =>
      rw [framed] at created
      have execution : (((perform (.ucpEpRkeyUnpack ep.handle payload) : Ffi _) >>=
          fun answer : UcsStatus × RkeyHandle => pure ((statusToResult answer.1).map fun _ =>
            (⟨answer.2, ep.workerAlive⟩ : RemoteKey))).execute environment history).result =
          (environment history (.ucpEpRkeyUnpack ep.handle payload)).map
            fun answer : UcsStatus × RkeyHandle =>
              (statusToResult answer.1).map fun _ => ⟨answer.2, ep.workerAlive⟩ :=
        congrArg Execution.result (execute_issue_done _ _)
      obtain ⟨answer, _, resultEq⟩ := Option.map_eq_some_iff.mp (execution.symm.trans created)
      rw [← eq_of_map_statusToResult resultEq]

theorem posting_calls {world : World} {posting : Posting} {post : Post}
    (resolved : posting.resolve world = some post) : post.program.EveryCall Storeless := by
  cases posting with
  | tagSend ep worker data tag param =>
      obtain ⟨owned, _, resolved⟩ := Option.bind_eq_some_iff.mp resolved
      obtain ⟨worker, _, resolved⟩ := Option.bind_eq_some_iff.mp resolved
      cases resolved
      exact ⟨by rintro _ _ ⟨⟩, fun _ => trivial⟩
  | tagRecv receiver worker data tag mask param =>
      obtain ⟨receiver, _, resolved⟩ := Option.bind_eq_some_iff.mp resolved
      obtain ⟨worker, _, resolved⟩ := Option.bind_eq_some_iff.mp resolved
      cases resolved
      exact ⟨by rintro _ _ ⟨⟩, fun _ => trivial⟩
  | streamSend ep worker data param =>
      obtain ⟨owned, _, resolved⟩ := Option.bind_eq_some_iff.mp resolved
      obtain ⟨worker, _, resolved⟩ := Option.bind_eq_some_iff.mp resolved
      cases resolved
      exact ⟨by rintro _ _ ⟨⟩, fun _ => trivial⟩
  | streamRecv ep worker buf param =>
      obtain ⟨owned, _, resolved⟩ := Option.bind_eq_some_iff.mp resolved
      obtain ⟨worker, _, resolved⟩ := Option.bind_eq_some_iff.mp resolved
      cases resolved
      exact ⟨by rintro _ _ ⟨⟩, fun _ => trivial⟩
  | amoFetch method ep worker rkey remoteAddr reply =>
      obtain ⟨owned, _, resolved⟩ := Option.bind_eq_some_iff.mp resolved
      obtain ⟨worker, _, resolved⟩ := Option.bind_eq_some_iff.mp resolved
      obtain ⟨rkey, _, resolved⟩ := Option.bind_eq_some_iff.mp resolved
      cases resolved
      cases method <;> exact ⟨by rintro _ _ ⟨⟩, fun _ => trivial⟩

/-- The operation of a step and what its calls can be. -/
def StepCalls (world : World) (label : Label) (operation : Operation)
    (calls : List Call) : Prop :=
  match label with
  | .createWorker _ => calls = []
  | .newEp _ _ _ | .createEp _ _ _ | .unpack _ _ _ =>
      operation.kind = .creation ∧ ∀ call ∈ calls, Storeless call
  | .post _ _ => operation.kind = .posting ∧ ∀ call ∈ calls, Storeless call
  | .freeGuard index oracle => ∃ posted, world.guards[index]? = some posted ∧
      operation = ⟨.guard, posted.owner, none⟩ ∧
      calls = (world.run oracle posted.value.free).calls
  | .dropGuard index oracle => ∃ posted, world.guards[index]? = some posted ∧
      operation = ⟨.guard, posted.owner, none⟩ ∧
      calls = (world.run oracle posted.value.drop).calls
  | .cleanUp index cleanup oracle => ∃ owned program, world.eps[index]? = some owned ∧
      cleanup.resolve world owned.value = some program ∧
      operation = ⟨.cleanup, owned.owner, some (.ep owned.value.handle)⟩ ∧
      calls = (world.run oracle program).calls
  | .dropRkey index oracle => ∃ owned, world.rkeys[index]? = some owned ∧
      operation = ⟨.cleanup, owned.owner, some (.rkey owned.value.handle)⟩ ∧
      calls = (world.run oracle owned.value.drop).calls
  | .dropWorker index oracle => ∃ worker, world.workers[index]? = some worker ∧
      operation = ⟨.workerDrop, worker, none⟩ ∧
      calls = (world.run oracle worker.drop).calls

variable {world next : World} {label : Label}

theorem mem_record_log {operation : Operation} {calls : List Call} {event : Event} :
    event ∈ (world.record operation calls).log ↔
      (∃ call ∈ calls, ⟨operation, call⟩ = event) ∨ event ∈ world.log := by
  unfold World.record
  rw [List.mem_append, List.mem_reverse, List.mem_map]

section Frames

variable (owner : Worker)

@[simp]
theorem addEp_log (result : Option (Except Status Ep)) :
    (world.addEp owner result).log = world.log := by
  rcases result with _ | _ | ep <;> rfl

@[simp]
theorem addRkey_log (result : Option (Except Status RemoteKey)) :
    (world.addRkey owner result).log = world.log := by
  rcases result with _ | _ | rkey <;> rfl

@[simp]
theorem addGuard_log (result : Option (Option Guard)) :
    (world.addGuard owner result).log = world.log := by
  rcases result with _ | _ | guard <;> rfl

@[simp]
theorem addRkey_eps (result : Option (Except Status RemoteKey)) :
    (world.addRkey owner result).eps = world.eps := by
  rcases result with _ | _ | rkey <;> rfl

@[simp]
theorem addGuard_eps (result : Option (Option Guard)) :
    (world.addGuard owner result).eps = world.eps := by
  rcases result with _ | _ | guard <;> rfl

@[simp]
theorem addEp_guards (result : Option (Except Status Ep)) :
    (world.addEp owner result).guards = world.guards := by
  rcases result with _ | _ | ep <;> rfl

@[simp]
theorem addRkey_guards (result : Option (Except Status RemoteKey)) :
    (world.addRkey owner result).guards = world.guards := by
  rcases result with _ | _ | rkey <;> rfl

@[simp]
theorem addEp_workers (result : Option (Except Status Ep)) :
    (world.addEp owner result).workers = world.workers := by
  rcases result with _ | _ | ep <;> rfl

@[simp]
theorem addRkey_workers (result : Option (Except Status RemoteKey)) :
    (world.addRkey owner result).workers = world.workers := by
  rcases result with _ | _ | rkey <;> rfl

@[simp]
theorem addGuard_workers (result : Option (Option Guard)) :
    (world.addGuard owner result).workers = world.workers := by
  rcases result with _ | _ | guard <;> rfl

theorem mem_addEp {owned : Owned Ep} {result : Option (Except Status Ep)}
    (member : owned ∈ (world.addEp owner result).eps) :
    owned ∈ world.eps ∨ ∃ ep, result = some (.ok ep) ∧ owned = ⟨ep, owner⟩ := by
  rcases result with _ | _ | ep
  · exact Or.inl member
  · exact Or.inl member
  · rcases List.mem_append.mp member with before | new
    · exact Or.inl before
    · exact Or.inr ⟨ep, rfl, List.mem_singleton.mp new⟩

theorem mem_addGuard {posted : Owned Guard} {result : Option (Option Guard)} :
    posted ∈ (world.addGuard owner result).guards ↔
      posted ∈ world.guards ∨ ∃ guard, result = some (some guard) ∧ posted = ⟨guard, owner⟩ := by
  rcases result with _ | _ | guard
  · simp [World.addGuard]
  · simp [World.addGuard]
  · simp [World.addGuard]

end Frames

/-- Every step logs the calls of one operation. -/
theorem step_log (stepEq : step world label = some next) :
    ∃ operation calls, next.log = (world.record operation calls).log ∧
      StepCalls world label operation calls := by
  cases moves_of_step stepEq with
  | createWorker handle =>
      exact ⟨⟨.creation, ⟨handle, ⟨0⟩⟩, none⟩, [], rfl, rfl⟩
  | newEp params oracle found =>
      exact ⟨_, _, addEp_log _ _, rfl,
        fun call member => (newEp_calls params _).of_mem_calls member⟩
  | createEp params oracle found =>
      exact ⟨_, _, addEp_log _ _, rfl,
        fun call member => (newEp_calls _ _).of_mem_calls member⟩
  | @unpack _ owned rkeyBuffer oracle found =>
      exact ⟨_, _, addRkey_log owned.owner _, rfl,
        fun call member => (unpack_calls owned.value rkeyBuffer).of_mem_calls member⟩
  | @post _ post oracle resolved =>
      exact ⟨_, _, addGuard_log post.owner _, rfl,
        fun call member => (posting_calls resolved).of_mem_calls member⟩
  | freeGuard oracle found =>
      exact ⟨_, _, rfl, _, found, rfl, rfl⟩
  | dropGuard oracle found =>
      exact ⟨_, _, rfl, _, found, rfl, rfl⟩
  | cleanUp oracle found resolved =>
      exact ⟨_, _, rfl, _, _, found, resolved, rfl, rfl⟩
  | dropRkey oracle found =>
      exact ⟨_, _, rfl, _, found, rfl, rfl⟩
  | dropWorker oracle found unborrowed =>
      exact ⟨_, _, rfl, _, found, rfl, rfl⟩

/-- Only a posting makes a guard. -/
theorem mem_guards_of_step {posted : Owned Guard} (stepEq : step world label = some next)
    (other : ∀ posting oracle, label ≠ .post posting oracle)
    (member : posted ∈ next.guards) : posted ∈ world.guards := by
  cases moves_of_step stepEq with
  | createWorker handle => exact member
  | newEp params oracle found => rwa [World.create, addEp_guards] at member
  | createEp params oracle found => rwa [World.create, addEp_guards] at member
  | unpack rkeyBuffer oracle found => rwa [World.unpack, addRkey_guards] at member
  | post oracle resolved => exact absurd rfl (other _ oracle)
  | freeGuard oracle found => exact List.mem_of_mem_eraseIdx member
  | dropGuard oracle found => exact List.mem_of_mem_eraseIdx member
  | cleanUp oracle found resolved => exact member
  | dropRkey oracle found => exact member
  | dropWorker oracle found unborrowed => exact member

/-- A worker that a guard borrows is not dropped. -/
theorem borrowed_survives {posted : Owned Guard} (stepEq : step world label = some next)
    (member : posted ∈ world.guards) (borrowed : posted.value.worker ∈ world.workers) :
    posted.value.worker ∈ next.workers := by
  cases moves_of_step stepEq with
  | createWorker handle => exact List.mem_append_left _ borrowed
  | newEp params oracle found => rwa [World.create, addEp_workers]
  | createEp params oracle found => rwa [World.create, addEp_workers]
  | unpack rkeyBuffer oracle found => rwa [World.unpack, addRkey_workers]
  | post oracle resolved => rwa [World.post, addGuard_workers]
  | freeGuard oracle found => exact borrowed
  | dropGuard oracle found => exact borrowed
  | cleanUp oracle found resolved => exact borrowed
  | dropRkey oracle found => exact borrowed
  | @dropWorker index worker oracle found unborrowed =>
      obtain ⟨position, foundAt⟩ := List.mem_iff_getElem?.mp borrowed
      refine List.mem_eraseIdx_iff_getElem?.mpr ⟨position, ?_, foundAt⟩
      rintro rfl
      -- the dropped worker is the borrowed one
      cases found.symm.trans foundAt
      exact unborrowed (List.any_eq_true.mpr ⟨posted, member, beq_self_eq_true _⟩)

end WorkerWorld

end UcxRs
