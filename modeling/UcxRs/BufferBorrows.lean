import UcxRs.GuardProgressOwner
import UcxRs.TimeoutReports

/-!
# Which buffers stay borrowed while UCX uses them

A method that hands a buffer to UCX returns either a guard, whose type has the
lifetime of the buffer, or a bare `Request`, whose type has none.  The borrow of
a buffer can therefore end while a bare request exists, and it ends after the
guard has been consumed.  A run posts operations, lets UCX complete them, gives
up returned values and ends borrows; forgetting a guard and `into_inner` are no
steps, and neither is the disposal of a guard that gives up at its bound.
-/

namespace UcxRs

namespace BufferBorrows

open GuardDisposal
open Interaction (Environment Program)
open Interaction.Program
open RequestHandles (decodedRequest decodedRequest_statusPtr isRequestPointer)
open TimeoutReports (advancing progressCalls)
open TransitionRuns
open WorkerWorld (Guard)

/-- The value that a caller gets for a posted operation. -/
inductive Returned where
  | guard (guard : Guard)
  | request (request : Request)
  deriving DecidableEq, Repr

namespace Returned

/-- The types of the guards have the lifetime of the buffer. -/
def carriesBorrow : Returned → Bool
  | .guard _ => true
  | .request _ => false

/-- The pointer of the live request. -/
def pointer : Returned → Option NonNull
  | .guard inner => inner.request
  | .request inner => inner.handle

end Returned

/-- The two ways to give up a returned value. -/
inductive Release where
  | free
  | drop
  deriving DecidableEq, Repr

def Release.program : Release → Returned → Ffi Unit
  | free, .guard guard => guard.free
  | drop, .guard guard => guard.drop
  | free, .request request => request.free
  | drop, .request request => request.drop

/-- The safe methods that hand a buffer to UCX. -/
inductive Posting where
  | tagSend (ep : Ep) (worker : Worker) (data : Buffer) (tag : Word) (param : RequestParam)
  | tagSendSync (ep : Ep) (data : Buffer) (tag : Word)
  | tagRecv (receiver worker : Worker) (data : Buffer) (tag mask : Word)
      (param : RequestParam)
  | tagMsgRecv (worker : Worker) (data : Buffer) (message : MessageHandle)
      (param : RequestParam)
  | streamSend (ep : Ep) (worker : Worker) (data : Buffer) (param : RequestParam)
  | streamRecv (ep : Ep) (worker : Worker) (buf : Buffer) (param : RequestParam)
  | amSend (ep : Ep) (id : BitVec 32) (header data : Buffer) (params : RequestParam)
  | amRecvData (worker : Worker) (dataDesc : NonNull) (buffer : Buffer)
      (params : RequestParam)
  | rmaPut (ep : Ep) (buffer : Buffer) (remoteAddr : Word) (rkey : RemoteKey)
      (param : RequestParam)
  | rmaGet (ep : Ep) (buffer : Buffer) (remoteAddr : Word) (rkey : RemoteKey)
      (param : RequestParam)
  | amoFetch (method : FetchMethod) (ep : Ep) (worker : Worker) (remoteAddr : Word)
      (rkey : RemoteKey) (reply : Word)
  deriving DecidableEq, Repr

/-- A failed posting returns no value that has to be given up. -/
def returnedBy {Value : Type} (returned : Value → Option Returned) :
    Except Status Value → Option Returned
  | .ok value => returned value
  | .error _ => none

namespace Posting

def program : Posting → Ffi (Option Returned)
  | tagSend ep worker data tag param =>
      returnedBy (Option.map fun guard => .guard (.tag guard)) <$>
        ep.tagSend worker data tag param
  | tagSendSync ep data tag =>
      returnedBy (fun request => some (.request request)) <$> ep.tagSendSync data tag
  | tagRecv receiver worker data tag mask param =>
      returnedBy (fun guard => some (.guard (.tag guard))) <$>
        receiver.tagRecv worker data tag mask param
  | tagMsgRecv worker data message param =>
      (fun received => received.bind (returnedBy (Option.map Returned.request))) <$>
        worker.tagMsgRecv data message param
  | streamSend ep worker data param =>
      returnedBy (Option.map fun guard => .guard (.stream guard)) <$>
        ep.streamSend worker data param
  | streamRecv ep worker buf param =>
      returnedBy (fun guard => some (.guard (.stream guard))) <$>
        ep.streamRecv worker buf param
  | amSend ep id header data params =>
      returnedBy (Option.map Returned.request) <$> ep.amSend id header data params
  | amRecvData worker dataDesc buffer params =>
      returnedBy (Option.map Returned.request) <$> worker.amRecvData dataDesc buffer params
  | rmaPut ep buffer remoteAddr rkey param =>
      returnedBy (Option.map Returned.request) <$> ep.rmaPut buffer remoteAddr rkey param
  | rmaGet ep buffer remoteAddr rkey param =>
      returnedBy (Option.map Returned.request) <$> ep.rmaGet buffer remoteAddr rkey param
  | amoFetch method ep worker remoteAddr rkey reply =>
      returnedBy (fun guard => some (.guard (.fetch guard))) <$>
        method.post ep worker remoteAddr rkey reply

/-- The method returns a guard of the buffer. -/
def isGuarded : Posting → Bool
  | tagSend .. | tagRecv .. | streamSend .. | streamRecv .. | amoFetch .. => true
  | tagSendSync .. | tagMsgRecv .. | amSend .. | amRecvData .. | rmaPut .. | rmaGet .. =>
      false

/-- `tag_msg_recv` panics on a message that its probe left in the queue. -/
def callsUcx : Posting → Bool
  | tagMsgRecv _ _ message _ => message.removed
  | _ => true

end Posting

/-- UCX answers the call of a posting with a status pointer; a stream receive may
have written its length. -/
def posted (ptr : Word) (written : Option Nat) : Environment Call Answer :=
  fun _ call =>
    match call with
    | .ucpTagSendNbx _ _ _ _ => some ptr
    | .ucpTagSendSyncNbx _ _ _ _ => some ptr
    | .ucpTagRecvNbx _ _ _ _ _ => some ptr
    | .ucpTagMsgRecvNbx _ _ _ _ => some ptr
    | .ucpStreamSendNbx _ _ _ => some ptr
    | .ucpStreamRecvNbx _ _ _ => some (ptr, written)
    | .ucpAmSendNbx _ _ _ _ _ => some ptr
    | .ucpAmRecvDataNbx _ _ _ _ => some ptr
    | .ucpPutNbx _ _ _ _ _ => some ptr
    | .ucpGetNbx _ _ _ _ _ => some ptr
    | .ucpAtomicOpNbx _ _ _ _ _ _ _ => some ptr
    | _ => none

/-- An operation that was posted: the value that the caller still has, the status
of the operation in UCX and whether its buffer is still borrowed. -/
structure Operation where
  returned : Option Returned
  status : UcsStatus
  borrowed : Bool
  deriving DecidableEq, Repr

/-- The operations that were posted, in order. -/
abbrev World := List Operation

/-- Only an operation with a request can be in progress. -/
def postedStatus (ptr : Word) (status : UcsStatus) : UcsStatus :=
  if ((NonNull.new ptr).filter isRequestPointer).isSome then status else .ok

/-- A guard gives up at its bound: it does not free its request. -/
def Returned.givesUp (returned : Returned) (calls : List Call) : Bool :=
  match returned with
  | .guard inner => inner.request.any fun handle => !calls.contains (.ucpRequestFree handle)
  | .request _ => false

/-- `progress` gives every operation that is in progress its next status.  `dispose`
frees or drops a returned value; the status of its operation changes with the
progress calls that the value makes. -/
inductive Label where
  | post (posting : Posting) (ptr : Word) (written : Option Nat) (status : UcsStatus)
  | progress (statuses : Nat → UcsStatus)
  | dispose (operation : Nat) (release : Release) (statusAfter : Nat → UcsStatus)
      (moved : Nat → Nat)
  | endBorrow (operation : Nat)

def Operation.advance (operation : Operation) (status : UcsStatus) : Operation :=
  if operation.status = .inProgress then { operation with status := status } else operation

def step (world : World) : Label → Option World
  | .post posting ptr written status =>
      let execution := posting.program.execute (posted ptr written) []
      if execution.calls.isEmpty then some world
      else
        let operation : Operation :=
          ⟨execution.result.join, postedStatus ptr status, true⟩
        some (world ++ [operation])
  | .progress statuses =>
      some (world.mapIdx fun index operation => operation.advance (statuses index))
  | .dispose index release statusAfter moved => do
      let operation ← world[index]?
      let returned ← operation.returned
      let execution := (release.program returned).execute (advancing statusAfter moved 0) []
      if statusAfter 0 = operation.status ∧ returned.givesUp execution.calls = false then
        some (world.set index
          ⟨none, statusAfter (progressCalls execution), operation.borrowed⟩)
      else none
  | .endBorrow index => do
      let operation ← world[index]?
      if operation.returned.any Returned.carriesBorrow then none
      else some (world.set index { operation with borrowed := false })

/-- No operation is in progress after the borrow of its buffer has ended. -/
def BuffersBorrowed (world : World) : Prop :=
  ∀ operation ∈ world, operation.status = .inProgress → operation.borrowed = true

/-- UCX was called and left the operation in progress. -/
def Posting.LeftInProgress (posting : Posting) (ptr : Word) (status : UcsStatus) : Prop :=
  posting.callsUcx = true ∧ postedStatus ptr status = .inProgress

/-- The postings of a run are among the allowed ones. -/
def PostsOnly (allowed : Posting → Word → UcsStatus → Prop) : Label → Prop
  | .post posting ptr _ status => allowed posting ptr status
  | _ => True

theorem statusPtrToResult_of_request {ptr : Word} {handle : NonNull}
    (pending : (NonNull.new ptr).filter isRequestPointer = some handle) :
    statusPtrToResult ptr = .ok (some ⟨some handle⟩) := by
  rw [← decodedRequest_statusPtr] at pending
  generalize statusPtrToResult ptr = decoded at pending ⊢
  rcases decoded with error | _ | request
  · cases pending
  · cases pending
  · cases request with
    | mk pointer =>
        obtain rfl : pointer = some handle := pending
        rfl

theorem exists_request_of_inProgress {ptr : Word} {status : UcsStatus}
    (pending : postedStatus ptr status = .inProgress) :
    ∃ handle, (NonNull.new ptr).filter isRequestPointer = some handle := by
  unfold postedStatus at pending
  split at pending
  · next isRequest => exact Option.isSome_iff_exists.mp isRequest
  · cases pending

/-- A posting makes one call.  When UCX answers with a request, the method returns
that request, in a guard or bare. -/
theorem Posting.returns_of_request {posting : Posting} {ptr : Word} {written : Option Nat}
    {handle : NonNull} (calls : posting.callsUcx = true)
    (pending : (NonNull.new ptr).filter isRequestPointer = some handle) :
    ∃ returned call,
      posting.program.execute (posted ptr written) [] = ⟨some (some returned), [call]⟩ ∧
      returned.carriesBorrow = posting.isGuarded ∧ returned.pointer = some handle := by
  have decoded := statusPtrToResult_of_request pending
  have runs : ∀ {call : Call} {answer : Answer call}
      {result : Answer call → Option Returned} {returned : Returned},
      posted ptr written [] call = some answer → result answer = some returned →
      (Program.issue call fun answer => .done (result answer)).execute
        (posted ptr written) [] = ⟨some (some returned), [call]⟩ := by
    intro call answer result returned answered resultEq
    rw [execute_issue_done, answered, Option.map_some, resultEq]
  cases posting with
  | tagSend ep worker data tag param =>
      refine ⟨.guard (.tag ⟨worker, some handle⟩), _, runs rfl ?_, rfl, rfl⟩
      rw [decoded]
      rfl
  | tagSendSync ep data tag =>
      refine ⟨.request ⟨some handle⟩, _, runs rfl ?_, rfl, rfl⟩
      rw [decoded]
      rfl
  | tagRecv receiver worker data tag mask param =>
      refine ⟨.guard (.tag ⟨worker, some handle⟩), _, runs rfl ?_, rfl, rfl⟩
      rw [decoded]
      rfl
  | tagMsgRecv worker data message param =>
      obtain ⟨message, info, removed⟩ := message
      obtain rfl : removed = true := calls
      refine ⟨.request ⟨some handle⟩, _, runs rfl ?_, rfl, rfl⟩
      rw [decoded]
      rfl
  | streamSend ep worker data param =>
      refine ⟨.guard (.stream ⟨some ⟨some handle⟩, worker, 0⟩), _, runs rfl ?_, rfl, rfl⟩
      rw [decoded]
      rfl
  | streamRecv ep worker buf param =>
      refine ⟨.guard (.stream ⟨some ⟨some handle⟩, worker, written.getD 0⟩), _,
        runs rfl ?_, rfl, rfl⟩
      rw [decoded]
      rfl
  | amSend ep id header data params =>
      refine ⟨.request ⟨some handle⟩, _, runs rfl ?_, rfl, rfl⟩
      rw [decoded]
      rfl
  | amRecvData worker dataDesc buffer params =>
      refine ⟨.request ⟨some handle⟩, _, runs rfl ?_, rfl, rfl⟩
      rw [decoded]
      rfl
  | rmaPut ep buffer remoteAddr rkey param =>
      refine ⟨.request ⟨some handle⟩, _, runs rfl ?_, rfl, rfl⟩
      rw [decoded]
      rfl
  | rmaGet ep buffer remoteAddr rkey param =>
      refine ⟨.request ⟨some handle⟩, _, runs rfl ?_, rfl, rfl⟩
      rw [decoded]
      rfl
  | amoFetch method ep worker remoteAddr rkey reply =>
      have fetched : ∀ answer, answer = ptr →
          returnedBy (fun guard => some (.guard (.fetch guard)))
            ((statusPtrToResult answer).map fun request => fetchAmoResult request worker) =
          some (.guard (.fetch ⟨some ⟨some handle⟩, worker⟩)) := by
        rintro _ rfl
        rw [decoded]
        rfl
      cases method <;>
        exact ⟨.guard (.fetch ⟨some ⟨some handle⟩, worker⟩), _, runs rfl (fetched ptr rfl),
          rfl, rfl⟩

/-- A method that panics calls nothing. -/
theorem Posting.calls_of_panic {posting : Posting} (panics : posting.callsUcx = false)
    (environment : Environment Call Answer) :
    (posting.program.execute environment []).calls = [] := by
  cases posting with
  | tagMsgRecv worker data message param =>
      obtain ⟨message, info, removed⟩ := message
      obtain rfl : removed = false := panics
      rfl
  | _ => cases panics

/-- What a posting that UCX leaves in progress adds. -/
theorem post_leaves {posting : Posting} {ptr : Word} {status : UcsStatus}
    (left : posting.LeftInProgress ptr status) (written : Option Nat) (world : World) :
    ∃ returned, step world (.post posting ptr written status) =
        some (world ++ [⟨some returned, .inProgress, true⟩]) ∧
      returned.carriesBorrow = posting.isGuarded ∧ returned.pointer ≠ none := by
  obtain ⟨calls, pending⟩ := left
  obtain ⟨handle, request⟩ := exists_request_of_inProgress pending
  obtain ⟨returned, call, execution, carries, live⟩ :=
    @Posting.returns_of_request posting ptr written handle calls request
  refine ⟨returned, ?_, carries, ?_⟩
  · simp only [step, execution, pending]
    rfl
  · simp [live]

section Disposal

variable {statusAfter : Nat → UcsStatus} {moved : Nat → Nat} {release : Release}

/-- A guard that frees its request has seen it final. -/
theorem final_of_waits {handle : NonNull} {worker : Worker} {program : Ffi Unit}
    (waits : ∀ {environment : Environment Call Answer} {statuses : List Call → UcsStatus},
      Serves environment handle worker statuses →
      GuardProgressOwner.Waits environment handle worker statuses program)
    (frees : .ucpRequestFree handle ∈
      (program.execute (advancing statusAfter moved 0) []).calls) :
    statusAfter (progressCalls (program.execute (advancing statusAfter moved 0) [])) ≠
      .inProgress := by
  obtain ⟨limit, atLimit, _, kept, disposed⟩ :=
    waits (@TimeoutReports.serves_advancing statusAfter moved 0 handle worker)
  have answers : checkAnswers handle worker
      (fun history => statusAfter (history.countP isProgress)) = statusAfter := by
    funext count
    exact congrArg statusAfter (TimeoutReports.countP_isProgress_rounds count)
  rw [answers] at disposed
  rcases first_final_or_pending statusAfter limit with
    ⟨count, within, pending, final⟩ | pending
  · have progressed : progressCalls
        (program.execute (advancing statusAfter moved 0) []) = count := by
      rw [disposed.final count within pending final]
      simp [progressCalls, isProgress]
    rw [progressed]
    exact final
  · rw [disposed.pending pending] at frees
    exact absurd frees kept

/-- After a value has been given up, its operation is in progress only if it was
before and no guard held its request. -/
theorem inProgress_before {returned : Returned}
    (kept : returned.givesUp ((release.program returned).execute
      (advancing statusAfter moved 0) []).calls = false)
    (pending : statusAfter (progressCalls ((release.program returned).execute
      (advancing statusAfter moved 0) [])) = .inProgress) :
    statusAfter 0 = .inProgress ∧
      (returned.carriesBorrow = true → returned.pointer = none) := by
  cases returned with
  | request request =>
      refine ⟨?_, nofun⟩
      obtain ⟨_ | handle⟩ := request <;> cases release <;> exact pending
  | guard guard =>
      cases live : guard.request with
      | none =>
          have inert : release.program (.guard guard) = .done () := by
            cases release with
            | free => exact GuardProgressOwner.freeGuard_inert live
            | drop => exact GuardProgressOwner.dropGuard_inert live
          rw [inert] at pending
          exact ⟨pending, fun _ => live⟩
      | some handle =>
          have frees : .ucpRequestFree handle ∈ ((release.program (.guard guard)).execute
              (advancing statusAfter moved 0) []).calls := by
            simpa [Returned.givesUp, live] using kept
          refine absurd pending (@final_of_waits _ _ handle guard.worker _ ?_ frees)
          cases release with
          | free => exact GuardProgressOwner.freeGuard_waits live
          | drop => exact GuardProgressOwner.dropGuard_waits live

end Disposal

/-- An operation in progress belongs to a guard of its live request, and its buffer
is borrowed. -/
structure IsGuarded (operation : Operation) : Prop where
  borrowed : operation.borrowed = true
  guarded : ∃ returned, operation.returned = some returned ∧
    returned.carriesBorrow = true ∧ returned.pointer ≠ none

def Guarded (world : World) : Prop :=
  ∀ operation ∈ world, operation.status = .inProgress → IsGuarded operation

/-- A posting that UCX leaves in progress returns a guard. -/
def LeftGuarded : Label → Prop
  | .post posting ptr _ status =>
      posting.LeftInProgress ptr status → posting.isGuarded = true
  | _ => True

theorem Guarded.buffersBorrowed {world : World} (guarded : Guarded world) :
    BuffersBorrowed world :=
  fun operation member pending => (guarded operation member pending).borrowed

theorem Guarded.append {world : World} (guarded : Guarded world) {operation : Operation}
    (added : operation.status = .inProgress → IsGuarded operation) :
    Guarded (world ++ [operation]) := by
  intro other member
  rcases List.mem_append.mp member with before | new
  · exact guarded other before
  · rw [List.mem_singleton.mp new]
    exact added

theorem Guarded.set {world : World} (guarded : Guarded world) {operation : Operation}
    {index : Nat} (replaced : operation.status = .inProgress → IsGuarded operation) :
    Guarded (world.set index operation) := by
  intro other member
  rcases List.mem_or_eq_of_mem_set member with before | same
  · exact guarded other before
  · rw [same]
    exact replaced

theorem Guarded.post {world next : World} (guarded : Guarded world) {posting : Posting}
    {ptr : Word} {written : Option Nat} {status : UcsStatus}
    (left : LeftGuarded (.post posting ptr written status))
    (stepEq : step world (.post posting ptr written status) = some next) : Guarded next := by
  by_cases inProgress : posting.LeftInProgress ptr status
  · obtain ⟨returned, leaves, carries, live⟩ := post_leaves inProgress written world
    cases leaves.symm.trans stepEq
    exact guarded.append fun _ => ⟨rfl, returned, rfl, carries.trans (left inProgress), live⟩
  · unfold step at stepEq
    cases calls : posting.callsUcx with
    | false =>
        have silent := Posting.calls_of_panic calls (posted ptr written)
        simp only [silent, List.isEmpty_nil, if_true, Option.some.injEq] at stepEq
        exact stepEq ▸ guarded
    | true =>
        dsimp only at stepEq
        split at stepEq
        · cases stepEq
          exact guarded
        · cases stepEq
          exact guarded.append fun pending => absurd ⟨calls, pending⟩ inProgress

theorem Guarded.progress {world : World} (guarded : Guarded world)
    (statuses : Nat → UcsStatus) :
    Guarded (world.mapIdx fun index operation => operation.advance (statuses index)) := by
  intro operation member pending
  obtain ⟨index, within, rfl⟩ := List.mem_mapIdx.mp member
  have held := guarded world[index] (List.getElem_mem within)
  unfold Operation.advance at pending ⊢
  split
  · next before => exact ⟨(held before).borrowed, (held before).guarded⟩
  · next final =>
      rw [if_neg final] at pending
      exact absurd pending final

/-- Giving up a value leaves the operations in progress that guards hold. -/
theorem Guarded.dispose {world next : World} (guarded : Guarded world) {index : Nat}
    {release : Release} {statusAfter : Nat → UcsStatus} {moved : Nat → Nat}
    (stepEq : step world (.dispose index release statusAfter moved) = some next) :
    Guarded next := by
  obtain ⟨operation, found, stepEq⟩ := Option.bind_eq_some_iff.mp stepEq
  obtain ⟨returned, has, stepEq⟩ := Option.bind_eq_some_iff.mp stepEq
  obtain ⟨⟨started, kept⟩, stepEq⟩ := Option.ite_none_right_eq_some.mp stepEq
  cases stepEq
  refine guarded.set fun pending => ?_
  obtain ⟨before, inert⟩ := inProgress_before kept pending
  obtain ⟨other, same, carries, live⟩ := (guarded operation (List.mem_of_getElem? found)
    (started.symm.trans before)).guarded
  cases has.symm.trans same
  exact absurd (inert carries) live

theorem Guarded.endBorrow {world next : World} (guarded : Guarded world) {index : Nat}
    (stepEq : step world (.endBorrow index) = some next) : Guarded next := by
  obtain ⟨operation, found, stepEq⟩ := Option.bind_eq_some_iff.mp stepEq
  obtain ⟨free, stepEq⟩ := Option.ite_none_left_eq_some.mp stepEq
  cases stepEq
  refine guarded.set fun pending => ?_
  obtain ⟨returned, has, carries, _⟩ :=
    (guarded operation (List.mem_of_getElem? found) pending).guarded
  rw [has] at free
  exact absurd carries free

theorem Guarded.step {world next : World} {label : Label} (guarded : Guarded world)
    (left : LeftGuarded label) (stepEq : step world label = some next) : Guarded next := by
  cases label with
  | post posting ptr written status => exact guarded.post left stepEq
  | progress statuses =>
      cases stepEq
      exact guarded.progress statuses
  | dispose index release statusAfter moved => exact guarded.dispose stepEq
  | endBorrow index => exact guarded.endBorrow stepEq

/-- The borrow of a buffer ends although its operation is in progress. -/
theorem borrow_ends_early {posting : Posting} {ptr : Word} {status : UcsStatus}
    (left : posting.LeftInProgress ptr status) (bare : posting.isGuarded = false) :
    ¬ EveryStep step (fun _ _ next => BuffersBorrowed next) []
      [.post posting ptr none status, .endBorrow 0] := by
  intro everyStep
  obtain ⟨returned, leaves, carries, _⟩ := post_leaves left none []
  have ended : step [⟨some returned, .inProgress, true⟩] (.endBorrow 0) =
      some [⟨some returned, .inProgress, false⟩] := by
    simp [step, carries, bare]
  have borrowed := ((everyStep _ leaves).2 _ ended).1
  exact absurd (borrowed _ (List.mem_singleton_self _) rfl) Bool.false_ne_true

/-- Whatever postings are allowed: in every run of them, every operation that is in
progress has its buffer borrowed, exactly if the allowed postings that UCX leaves in
progress return guards. -/
theorem buffers_borrowed_iff (allowed : Posting → Word → UcsStatus → Prop) :
    (∀ run, EveryStep step (fun _ label _ => PostsOnly allowed label) [] run →
      EveryStep step (fun _ _ next => BuffersBorrowed next) [] run) ↔
    ∀ posting ptr status, allowed posting ptr status →
      posting.LeftInProgress ptr status → posting.isGuarded = true := by
  constructor
  · intro borrowed posting ptr status posts left
    by_contra bare
    refine borrow_ends_early left (Bool.eq_false_iff.mpr bare) (borrowed _ ?_)
    exact fun _ _ => ⟨posts, fun _ _ => ⟨trivial, trivial⟩⟩
  · intro guards run posts
    have preserved : ∀ {world label next}, Guarded world → PostsOnly allowed label →
        step world label = some next → Guarded next := by
      intro world label next guarded allows stepEq
      refine guarded.step ?_ stepEq
      cases label with
      | post posting ptr written status => exact guards posting ptr status allows
      | _ => trivial
    have initial : Guarded [] := fun _ member => absurd member List.not_mem_nil
    refine everyStep_of_guarded_invariant ?_ Guarded.buffersBorrowed posts initial
    exact fun guarded allows stepEq => preserved guarded allows stepEq

/-- A put whose source buffer is let go of before UCX has read it. -/
theorem put_outlives_borrow :
    ¬ ∀ run, EveryStep step (fun _ _ next => BuffersBorrowed next) [] run := by
  let put : Posting := .rmaPut ⟨⟨0x1000⟩, ⟨0⟩⟩ ⟨0x4000, 8⟩ 0x8000 ⟨⟨0x3000⟩, ⟨0⟩⟩
    ⟨UcpRequestParam.zeroed⟩
  have left : put.LeftInProgress 0x2000 .inProgress := ⟨rfl, by decide⟩
  exact fun borrowed => borrow_ends_early left rfl (borrowed _)

end BufferBorrows

end UcxRs
