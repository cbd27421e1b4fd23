import UcxRs.GuardDisposal
import UcxRs.WorkerCalls

/-!
# The worker that a guard makes progress on

A guard waits by making progress on the worker it was given.  The wait can be
ended by the operation only when that is the worker the operation was posted
on: the worker of the endpoint, or the receiver of a tag receive.  A release
build ties neither to the other, so this holds along a run exactly when every
posting that UCX leaves pending is given the right worker.
-/

namespace UcxRs

namespace GuardProgressOwner

open GuardDisposal
open Interaction (Environment Execution Program)
open Interaction.Program
open RequestHandles (grantedRequest isRequestPointer decodedRequest_statusPtr)
open TransitionRuns
open WorkerWorld

/-- An operation that completes, with a final status, once its worker has made
progress a number of times. -/
def completing (owner : Worker) (needed : Nat) (final : UcsStatus) :
    Environment Call Answer :=
  fun history call =>
    match call with
    | .ucpRequestCheckStatus _ =>
        some (if history.count (.ucpWorkerProgress owner.handle) < needed then .inProgress
          else final)
    | .ucpWorkerProgress _ => some (1 : Nat)
    | .ucpRequestFree _ => some ()
    | _ => none

/-- However many progress calls the operation needs, below the bound of the
loops, the program makes them, sees it complete, frees the request and
returns. -/
def EndsByCompletion (owner : Worker) (handle : NonNull) (program : Ffi Unit) : Prop :=
  ∀ needed < 1000000, ∀ final ≠ UcsStatus.inProgress,
    program.execute (completing owner needed final) [] =
      ⟨some (), repeatCalls (pendingRound handle owner) needed ++
        [.ucpRequestCheckStatus handle, .ucpRequestFree handle]⟩

/-- A guard with a live request makes progress on the owner of the operation,
which is still there, and its wait ends when the operation completes. -/
structure ProgressesOwner (world : World) (posted : Owned Guard) (handle : NonNull) :
    Prop where
  worker : posted.value.worker = posted.owner
  alive : posted.owner ∈ world.workers
  free : posted.value.free.EveryCall (GuardCall posted.owner)
  drop : posted.value.drop.EveryCall (GuardCall posted.owner)
  freeEnds : EndsByCompletion posted.owner handle posted.value.free
  dropEnds : EndsByCompletion posted.owner handle posted.value.drop

/-- The guards that wait make progress on the owner of their operation, and so
did all guards before them. -/
structure GuardsProgressOwner (world : World) : Prop where
  guards : ∀ posted ∈ world.guards, ∀ handle, posted.value.request = some handle →
    ProgressesOwner world posted handle
  log : ∀ event ∈ world.log, event.operation.kind = .guard → ∀ worker,
    event.call = .ucpWorkerProgress worker → worker = event.operation.owner.handle

/-- The request that UCX returns to the call of a posting, when it leaves the
operation pending. -/
def pendingRequest {Result : Type} (oracle : Environment Call Answer) :
    Ffi Result → Option NonNull
  | .issue call _ => (oracle [] call).bind fun answer =>
      (grantedRequest call answer).filter isRequestPointer
  | .done _ => none

/-- A posting that UCX leaves pending is given the worker that the operation is
posted on. -/
def TiesWorker (world : World) : Label → Prop
  | .post posting oracle => ∀ post, posting.resolve world = some post →
      pendingRequest oracle post.program ≠ none → post.worker = post.owner
  | _ => True

/-- A guard of a request, if there is one, that borrows a worker. -/
def Guards (worker : Worker) (pointer : Option NonNull) : Option Guard → Prop
  | some guard => guard.worker = worker ∧ guard.request = pointer
  | none => pointer = none

theorem guards_statusPtr {worker : Worker}
    {outcome : Except Status (Option Request) → Option Guard}
    (error : ∀ error, Guards worker none (outcome (.error error)))
    (immediate : Guards worker none (outcome (.ok none)))
    (pending : ∀ request : Request, Guards worker request.handle (outcome (.ok (some request))))
    (ptr : Word) :
    Guards worker ((NonNull.new ptr).filter isRequestPointer)
      (outcome (statusPtrToResult ptr)) := by
  rw [← decodedRequest_statusPtr]
  rcases statusPtrToResult ptr with failed | _ | request
  · exact error failed
  · exact immediate
  · exact pending request

/-- A posting makes one call, to UCX, and returns a guard of the worker it was
given when the answer is a request. -/
structure PostsGuard (world : World) (post : Post) : Prop where
  borrowed : post.worker ∈ world.workers
  program : ∃ (call : Call) (result : Answer call → Option Guard),
    post.program = .issue call (fun answer => .done (result answer)) ∧
    (∀ oracle, sharing world.log oracle [] call = oracle [] call) ∧
    ∀ answer, Guards post.worker ((grantedRequest call answer).filter isRequestPointer)
      (result answer)

theorem postsGuard {world : World} {posting : Posting} {post : Post}
    (resolved : posting.resolve world = some post) : PostsGuard world post := by
  cases posting with
  | tagSend ep worker data tag param =>
      obtain ⟨owned, _, resolved⟩ := Option.bind_eq_some_iff.mp resolved
      obtain ⟨worker, found, resolved⟩ := Option.bind_eq_some_iff.mp resolved
      cases resolved
      refine ⟨List.mem_of_getElem? found, _, _, rfl, fun _ => rfl, ?_⟩
      exact @guards_statusPtr worker
        (fun decoded => guardOf (Option.map Guard.tag)
          (decoded.map (Option.map fun request : Request => TagRequest.mk worker request.handle)))
        (fun _ => rfl) rfl (fun _ => ⟨rfl, rfl⟩)
  | tagRecv receiver worker data tag mask param =>
      obtain ⟨receiver, _, resolved⟩ := Option.bind_eq_some_iff.mp resolved
      obtain ⟨worker, found, resolved⟩ := Option.bind_eq_some_iff.mp resolved
      cases resolved
      refine ⟨List.mem_of_getElem? found, _, _, rfl, fun _ => rfl, ?_⟩
      exact @guards_statusPtr worker
        (fun decoded => guardOf (fun guard => some (.tag guard)) (decoded.map fun request =>
          { worker := worker, handle := request.bind fun request => request.handle }))
        (fun _ => rfl) ⟨rfl, rfl⟩ (fun _ => ⟨rfl, rfl⟩)
  | streamSend ep worker data param =>
      obtain ⟨owned, _, resolved⟩ := Option.bind_eq_some_iff.mp resolved
      obtain ⟨worker, found, resolved⟩ := Option.bind_eq_some_iff.mp resolved
      cases resolved
      refine ⟨List.mem_of_getElem? found, _, _, rfl, fun _ => rfl, ?_⟩
      exact @guards_statusPtr worker
        (fun decoded => guardOf (Option.map Guard.stream)
          (decoded.map (Option.map fun request => StreamRequest.mk (some request) worker 0)))
        (fun _ => rfl) rfl (fun _ => ⟨rfl, rfl⟩)
  | streamRecv ep worker buf param =>
      obtain ⟨owned, _, resolved⟩ := Option.bind_eq_some_iff.mp resolved
      obtain ⟨worker, found, resolved⟩ := Option.bind_eq_some_iff.mp resolved
      cases resolved
      refine ⟨List.mem_of_getElem? found, _, _, rfl, fun _ => rfl, ?_⟩
      rintro ⟨ptr, written⟩
      exact @guards_statusPtr worker
        (fun decoded => guardOf (fun guard => some (.stream guard)) (decoded.map fun request =>
          { request := request, worker := worker, length := written.getD 0 }))
        (fun _ => rfl) ⟨rfl, rfl⟩ (fun _ => ⟨rfl, rfl⟩) ptr
  | amoFetch method ep worker rkey remoteAddr reply =>
      obtain ⟨owned, _, resolved⟩ := Option.bind_eq_some_iff.mp resolved
      obtain ⟨worker, found, resolved⟩ := Option.bind_eq_some_iff.mp resolved
      obtain ⟨rkey, _, resolved⟩ := Option.bind_eq_some_iff.mp resolved
      cases resolved
      have guards : ∀ ptr, Guards worker ((NonNull.new ptr).filter isRequestPointer)
          (guardOf (fun guard => some (.fetch guard))
            ((statusPtrToResult ptr).map fun request => fetchAmoResult request worker)) :=
        @guards_statusPtr worker
          (fun decoded => guardOf (fun guard => some (.fetch guard)) (decoded.map fun request =>
            fetchAmoResult request worker))
          (fun _ => rfl) ⟨rfl, rfl⟩ (fun _ => ⟨rfl, rfl⟩)
      cases method <;>
        exact ⟨List.mem_of_getElem? found, _, _, rfl, fun _ => rfl, guards⟩

/-- What a posting that runs leaves: the pending request's guard, or none that
has a request. -/
theorem PostsGuard.result {world : World} {post : Post} (posts : PostsGuard world post)
    (oracle : Environment Call Answer) :
    (∃ outcome, (world.run oracle post.program).result = some outcome ∧
      Guards post.worker (pendingRequest oracle post.program) outcome) ∨
    (world.run oracle post.program).result = none ∧
      pendingRequest oracle post.program = none := by
  obtain ⟨call, result, programEq, answered, guards⟩ := posts.program
  have execution : (world.run oracle post.program).result = (oracle [] call).map result := by
    unfold World.run
    rw [programEq, execute_issue_done, answered oracle]
  have pending : pendingRequest oracle post.program =
      (oracle [] call).bind fun answer =>
        (grantedRequest call answer).filter isRequestPointer := by
    rw [programEq]
    rfl
  rw [execution, pending]
  cases oracle [] call with
  | none => exact Or.inr ⟨rfl, rfl⟩
  | some answer => exact Or.inl ⟨result answer, rfl, guards answer⟩

theorem count_rounds (handle : NonNull) (worker : Worker) (count : Nat) :
    (repeatCalls (pendingRound handle worker) count).count (.ucpWorkerProgress worker.handle) =
      count := by
  induction count with
  | zero => rfl
  | succ count ih =>
      rw [repeatCalls_succ, List.count_append, ih]
      simp [pendingRound, Nat.add_comm]

theorem serves_completing (owner : Worker) (needed : Nat) (final : UcsStatus)
    (handle : NonNull) (worker : Worker) :
    Serves (completing owner needed final) handle worker fun history =>
      if history.count (.ucpWorkerProgress owner.handle) < needed then .inProgress
      else final :=
  ⟨fun _ => rfl, fun _ => ⟨1, rfl⟩, fun _ => rfl⟩

/-- A guard's wait for its live request, of at least a million checks: at the
bound it has not freed the request. -/
def Waits (environment : Environment Call Answer) (handle : NonNull) (worker : Worker)
    (statuses : List Call → UcsStatus) (program : Ffi Unit) : Prop :=
  ∃ limit atLimit, 1000000 ≤ limit ∧ .ucpRequestFree handle ∉ atLimit.calls ∧
    Disposes handle worker limit (checkAnswers handle worker statuses) (fun _ => ()) atLimit
      (program.execute environment [])

section Waits

variable {environment : Environment Call Answer} {statuses : List Call → UcsStatus}
  {guard : Guard} {handle : NonNull}

theorem dropGuard_waits (live : guard.request = some handle)
    (serves : Serves environment handle guard.worker statuses) :
    Waits environment handle guard.worker statuses guard.drop := by
  cases guard with
  | tag guard =>
      obtain ⟨worker, pointer⟩ := guard
      cases live
      exact ⟨1000001, _, by omega, free_not_mem_aborted _, serves.disposes_tagDrop⟩
  | stream guard =>
      obtain ⟨request, worker, length⟩ := guard
      obtain ⟨⟨pointer⟩, rfl, liveRequest⟩ := Option.bind_eq_some_iff.mp live
      cases liveRequest
      exact ⟨1000000, _, le_rfl, free_not_mem_rounds _,
        serves.disposes_progressToCompletion⟩
  | fetch guard =>
      obtain ⟨request, worker⟩ := guard
      obtain ⟨⟨pointer⟩, rfl, liveRequest⟩ := Option.bind_eq_some_iff.mp live
      cases liveRequest
      exact ⟨1000000, _, le_rfl, free_not_mem_rounds _,
        serves.disposes_progressToCompletion⟩

theorem freeGuard_waits (live : guard.request = some handle)
    (serves : Serves environment handle guard.worker statuses) :
    Waits environment handle guard.worker statuses guard.free := by
  cases guard with
  | tag guard =>
      obtain ⟨worker, pointer⟩ := guard
      cases live
      refine ⟨1000001, ⟨none, repeatCalls (pendingRound handle worker) 1000000 ++
        [.ucpRequestCheckStatus handle, .abort]⟩, by omega, free_not_mem_aborted _, ?_⟩
      change Disposes _ _ _ _ _ _ (execute _ [] ((fun _ => ()) <$> TagRequest.free _))
      rw [map_eq_pure_bind]
      exact serves.disposes_tagFree.andThen fun _ => rfl
  | stream guard =>
      change Waits environment handle guard.worker statuses guard.free
      rw [StreamRequest.free_eq_drop]
      exact @dropGuard_waits _ _ (.stream guard) handle live serves
  | fetch guard =>
      change Waits environment handle guard.worker statuses guard.free
      rw [FetchAmoRequest.free_eq_drop]
      exact @dropGuard_waits _ _ (.fetch guard) handle live serves

end Waits

/-- A wait on the owner is disposed of by the completion. -/
theorem endsByCompletion_of_waits {owner : Worker} {handle : NonNull} {program : Ffi Unit}
    (waits : ∀ {environment : Environment Call Answer} {statuses : List Call → UcsStatus},
      Serves environment handle owner statuses →
      Waits environment handle owner statuses program) :
    EndsByCompletion owner handle program := by
  intro needed within final isFinal
  obtain ⟨limit, atLimit, enough, _, disposed⟩ :=
    waits (serves_completing owner needed final handle owner)
  have answers : ∀ count, checkAnswers handle owner (fun history =>
      if history.count (.ucpWorkerProgress owner.handle) < needed then .inProgress
      else final) count = if count < needed then .inProgress else final := by
    intro count
    simp only [checkAnswers, count_rounds]
  have ended := disposed.final needed (by omega)
    (fun index before => (answers index).trans (if_pos before))
  rw [answers, if_neg (Nat.lt_irrefl needed)] at ended
  exact ended isFinal

/-- A guard that borrows the owner of its operation. -/
theorem progressesOwner_of_worker_eq {world : World} {posted : Owned Guard}
    {handle : NonNull} (live : posted.value.request = some handle)
    (same : posted.value.worker = posted.owner) (alive : posted.owner ∈ world.workers) :
    ProgressesOwner world posted handle where
  worker := same
  alive := alive
  free := same ▸ freeGuard_calls posted.value
  drop := same ▸ dropGuard_calls posted.value
  freeEnds := same ▸ endsByCompletion_of_waits (freeGuard_waits live)
  dropEnds := same ▸ endsByCompletion_of_waits (dropGuard_waits live)

theorem progressToCompletion_inert (worker : Worker) :
    progressToCompletion ⟨none⟩ worker = .done () :=
  rfl

theorem dropGuard_inert {guard : Guard} (inert : guard.request = none) :
    guard.drop = .done () := by
  cases guard with
  | tag guard =>
      obtain ⟨worker, pointer⟩ := guard
      cases inert
      exact TagRequest.drop_none worker
  | stream guard =>
      obtain ⟨_ | ⟨⟨pointer⟩⟩, worker, length⟩ := guard
      · rfl
      · obtain rfl : pointer = none := inert
        exact progressToCompletion_inert worker
  | fetch guard =>
      obtain ⟨_ | ⟨⟨pointer⟩⟩, worker⟩ := guard
      · rfl
      · obtain rfl : pointer = none := inert
        exact progressToCompletion_inert worker

theorem freeGuard_inert {guard : Guard} (inert : guard.request = none) :
    guard.free = .done () := by
  cases guard with
  | tag guard =>
      obtain ⟨worker, pointer⟩ := guard
      cases inert
      change (fun _ => ()) <$> TagRequest.free ⟨worker, none⟩ = .done ()
      unfold TagRequest.free
      simp
  | stream guard =>
      exact (StreamRequest.free_eq_drop guard).trans (@dropGuard_inert (.stream guard) inert)
  | fetch guard =>
      exact (FetchAmoRequest.free_eq_drop guard).trans (@dropGuard_inert (.fetch guard) inert)

variable {world next : World} {label : Label}

/-- Every guard borrows a worker that exists. -/
def Borrowed (world : World) : Prop :=
  ∀ posted ∈ world.guards, posted.value.worker ∈ world.workers

theorem Borrowed.step (borrowed : Borrowed world)
    (stepEq : step world label = some next) : Borrowed next := by
  intro posted member
  by_cases posting : ∃ posting oracle, label = .post posting oracle
  · obtain ⟨posting, oracle, rfl⟩ := posting
    have survives := fun before => borrowed_survives stepEq before (borrowed posted before)
    obtain ⟨post, resolved, stepEq⟩ := Option.bind_eq_some_iff.mp stepEq
    cases stepEq
    have posts := postsGuard resolved
    rcases (mem_addGuard post.owner).mp member with before | ⟨guard, resultEq, rfl⟩
    · exact survives before
    · rw [World.post, addGuard_workers]
      rcases posts.result oracle with ⟨outcome, ran, guards⟩ | ⟨ran, _⟩
      · cases ran.symm.trans resultEq
        exact guards.1 ▸ posts.borrowed
      · cases ran.symm.trans resultEq
  · have before := mem_guards_of_step stepEq
      (fun posting' oracle same => posting ⟨posting', oracle, same⟩) member
    exact borrowed_survives stepEq before (borrowed posted before)

/-- The guards of the state before go on as before. -/
theorem GuardsProgressOwner.survives (progress : GuardsProgressOwner world)
    (borrowed : Borrowed world) (stepEq : step world label = some next)
    {posted : Owned Guard} (member : posted ∈ world.guards) {handle : NonNull}
    (live : posted.value.request = some handle) : ProgressesOwner next posted handle := by
  have same := (progress.guards posted member handle live).worker
  refine progressesOwner_of_worker_eq live same ?_
  rw [← same]
  exact borrowed_survives stepEq member (borrowed posted member)

/-- What a guard calls when it is disposed of. -/
theorem GuardsProgressOwner.disposal_calls (progress : GuardsProgressOwner world)
    {index : Nat} {posted : Owned Guard} (found : world.guards[index]? = some posted)
    (oracle : Environment Call Answer) :
    (∀ call ∈ (world.run oracle posted.value.free).calls, GuardCall posted.owner call) ∧
      ∀ call ∈ (world.run oracle posted.value.drop).calls, GuardCall posted.owner call := by
  cases live : posted.value.request with
  | none =>
      rw [freeGuard_inert live, dropGuard_inert live]
      constructor <;>
        exact fun call member => absurd member List.not_mem_nil
  | some handle =>
      have owns := progress.guards posted (List.mem_of_getElem? found) handle live
      exact ⟨fun call member => owns.free.of_mem_calls member,
        fun call member => owns.drop.of_mem_calls member⟩

/-- The guards that a step disposes of make progress on the owner. -/
theorem GuardsProgressOwner.log_step (progress : GuardsProgressOwner world)
    (stepEq : step world label = some next) :
    ∀ event ∈ next.log, event.operation.kind = .guard → ∀ worker,
      event.call = .ucpWorkerProgress worker → worker = event.operation.owner.handle := by
  obtain ⟨operation, calls, logEq, made⟩ := step_log stepEq
  rw [logEq]
  intro event member kind worker progresses
  rcases mem_record_log.mp member with ⟨call, called, rfl⟩ | before
  · cases label with
    | createWorker handle =>
        cases made
        exact absurd called List.not_mem_nil
    | newEp index params oracle => cases made.1.symm.trans kind
    | createEp index params oracle => cases made.1.symm.trans kind
    | unpack index rkeyBuffer oracle => cases made.1.symm.trans kind
    | post posting oracle => cases made.1.symm.trans kind
    | freeGuard index oracle =>
        obtain ⟨posted, found, rfl, rfl⟩ := made
        exact ((progress.disposal_calls found oracle).1 call called).1 worker progresses
    | dropGuard index oracle =>
        obtain ⟨posted, found, rfl, rfl⟩ := made
        exact ((progress.disposal_calls found oracle).2 call called).1 worker progresses
    | cleanUp index cleanup oracle =>
        obtain ⟨owned, program, _, _, rfl, _⟩ := made
        cases kind
    | dropRkey index oracle =>
        obtain ⟨owned, _, rfl, _⟩ := made
        cases kind
    | dropWorker index oracle =>
        obtain ⟨dropped, _, rfl, _⟩ := made
        cases kind
  · exact progress.log event before kind worker progresses

/-- One step leaves only guards that make progress on their owner exactly when
it ties the worker of a pending posting. -/
theorem guardsProgressOwner_step_iff (borrowed : Borrowed world)
    (progress : GuardsProgressOwner world) (stepEq : step world label = some next) :
    GuardsProgressOwner next ↔ TiesWorker world label := by
  have log := progress.log_step stepEq
  have survives := fun posted member handle live =>
    @GuardsProgressOwner.survives world next label progress borrowed stepEq posted member
      handle live
  have borrowedNext := borrowed.step stepEq
  by_cases posting : ∃ posting oracle, label = .post posting oracle
  · obtain ⟨posting, oracle, rfl⟩ := posting
    obtain ⟨post, resolved, stepEq⟩ := Option.bind_eq_some_iff.mp stepEq
    cases stepEq
    have result := (postsGuard resolved).result oracle
    constructor
    · intro progressNext other otherResolved pending
      cases resolved.symm.trans otherResolved
      rcases result with ⟨_ | guard, ran, guards⟩ | ⟨_, notPending⟩
      · exact absurd guards pending
      · obtain ⟨handle, live⟩ := Option.ne_none_iff_exists'.mp pending
        have new : ⟨guard, post.owner⟩ ∈ (world.post post oracle).guards :=
          (mem_addGuard post.owner).mpr (Or.inr ⟨guard, ran, rfl⟩)
        have owns := progressNext.guards _ new handle (guards.2.trans live)
        exact guards.1.symm.trans owns.worker
      · exact absurd notPending pending
    · intro ties
      refine ⟨fun posted member handle live => ?_, log⟩
      rcases (mem_addGuard post.owner).mp member with before | ⟨guard, ran, rfl⟩
      · exact survives posted before handle live
      · rcases result with ⟨outcome, ranTo, guards⟩ | ⟨failed, _⟩
        · cases ranTo.symm.trans ran
          have pending : pendingRequest oracle post.program ≠ none := by
            rw [← guards.2, live]
            exact Option.some_ne_none handle
          have same := guards.1.trans (ties post resolved pending)
          refine progressesOwner_of_worker_eq live same ?_
          exact same ▸ borrowedNext _ member
        · cases failed.symm.trans ran
  · have other : ∀ posting oracle, label ≠ .post posting oracle :=
      fun posting' oracle same => posting ⟨posting', oracle, same⟩
    have tied : TiesWorker world label := by
      cases label with
      | post chosen oracle => exact absurd rfl (other chosen oracle)
      | _ => exact trivial
    refine iff_of_true ⟨fun posted member handle live => ?_, log⟩ tied
    exact survives posted (mem_guards_of_step stepEq other member) handle live

/-- In every state of a run the guards make progress on the owner of their
operation exactly when every posting of the run that UCX leaves pending is
given that worker. -/
theorem guards_progress_owner_iff (run : List Label) :
    EveryStep step (fun _ _ next => GuardsProgressOwner next) World.initial run ↔
      EveryStep step (fun world label _ => TiesWorker world label) World.initial run := by
  have initial : Borrowed World.initial ∧ GuardsProgressOwner World.initial := by
    refine ⟨?_, ⟨?_, ?_⟩⟩
    · intro posted member
      exact absurd member List.not_mem_nil
    · intro posted member
      exact absurd member List.not_mem_nil
    · intro event member
      exact absurd member List.not_mem_nil
  refine @everyStep_congr_of_guarded_invariant _ _ step
    (fun world => Borrowed world ∧ GuardsProgressOwner world) _ _ ?_ ?_ _ initial run
  · intro world label next holds progress stepEq
    exact ⟨holds.1.step stepEq, progress⟩
  · intro world label next holds stepEq
    exact guardsProgressOwner_step_iff holds.1 holds.2 stepEq

/-- UCX creates an endpoint and leaves every send pending. -/
def postponing : Environment Call Answer :=
  fun _ call =>
    match call with
    | .ucpEpCreate _ _ => some (.ok, ⟨0x3000⟩)
    | .ucpTagSendNbx _ _ _ _ => some 0x4000
    | _ => none

/-- Two workers, an endpoint on the first, and a send that is given the
second. -/
def foreignSend : List Label :=
  [.createWorker ⟨0x1000⟩,
    .createWorker ⟨0x2000⟩,
    .createEp 0 Ep.ParamsBuilder.new.build.1 postponing,
    .post (.tagSend 0 1 ⟨0x5000, 8⟩ 0 RequestParamBuilder.new.build) postponing]

/-- The guard of the send waits for the wrong worker. -/
theorem foreign_send_breaks :
    ¬ EveryStep step (fun _ _ next => GuardsProgressOwner next) World.initial
      foreignSend := by
  intro every
  obtain ⟨progress, _⟩ := (((every _ rfl).2 _ rfl).2 _ rfl).2 _ rfl
  have owns := progress.guards _ (List.mem_singleton_self _) _ rfl
  exact absurd owns.worker (by decide)

end GuardProgressOwner

end UcxRs
