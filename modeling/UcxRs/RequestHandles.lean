import UcxRs.AtomicOperations
import UcxRs.HandleLinearity

/-!
# The methods of a wrapper name only its own request

A request pointer that UCX returned is owned by one of four wrappers.  This
file instantiates the ownership protocol with the request calls of UCX and
shows of every method of every wrapper that it names no pointer but the
wrapper's own, and makes no call at all once that pointer is gone.
-/

namespace UcxRs

namespace RequestHandles

open HandleOwnership
open Interaction (Program)

/-- The request that a call is given. -/
def namedRequest : Call → Option NonNull
  | .ucpRequestCheckStatus request => some request
  | .ucpRequestIsCompleted request => some request
  | .ucpRequestTest request => some request
  | .ucpStreamRecvRequestTest request => some request
  | .ucpTagRecvRequestTest request => some request
  | .ucpRequestCancel _ request => some request
  | .ucpRequestFree request => some request
  | .ucpRequestRelease request => some request
  | _ => none

def releasedRequest : Call → Option NonNull
  | .ucpRequestFree request => some request
  | .ucpRequestRelease request => some request
  | _ => none

/-- The non-null pointer that a posting call returns. -/
def grantedRequest : (call : Call) → Answer call → Option NonNull
  | .ucpRequestAlloc _, ptr => NonNull.new ptr
  | .ucpWorkerFlushNbx _ _, ptr => NonNull.new ptr
  | .ucpTagSendNbx _ _ _ _, ptr => NonNull.new ptr
  | .ucpTagSendSyncNbx _ _ _ _, ptr => NonNull.new ptr
  | .ucpTagRecvNbx _ _ _ _ _, ptr => NonNull.new ptr
  | .ucpTagMsgRecvNbx _ _ _ _, ptr => NonNull.new ptr
  | .ucpTagMsgRecvNb _ _ _ _, ptr => NonNull.new ptr
  | .ucpStreamSendNbx _ _ _, ptr => NonNull.new ptr
  | .ucpStreamRecvNbx _ _ _, (ptr, _) => NonNull.new ptr
  | .ucpAmSendNbx _ _ _ _ _, ptr => NonNull.new ptr
  | .ucpAmRecvDataNbx _ _ _ _, ptr => NonNull.new ptr
  | .ucpPutNbx _ _ _ _ _, ptr => NonNull.new ptr
  | .ucpGetNbx _ _ _ _ _, ptr => NonNull.new ptr
  | .ucpAtomicOpNbx _ _ _ _ _ _ _, ptr => NonNull.new ptr
  | .ucpEpFlushNbx _ _, ptr => NonNull.new ptr
  | .ucpEpModifyNb _ _, ptr => NonNull.new ptr
  | .ucpEpCloseNbx _ _, ptr => NonNull.new ptr
  | .ucpDisconnectNb _, ptr => NonNull.new ptr
  | _, _ => none

/-- The word is the address of a request, not an immediate status or an
error. -/
def isRequestPointer (pointer : NonNull) : Bool :=
  !statusPtrIsErr pointer.val && decide (statusWord .inProgress < pointer.val)

/-- A status pointer is an error, an immediate completion, or the request at
that address. -/
theorem statusPtrToResult_cases (ptr : Word) :
    (∃ error, statusPtrToResult ptr = .error error) ∨
      statusPtrToResult ptr = .ok none ∨
      statusPtrToResult ptr = .ok (some ⟨NonNull.new ptr⟩) := by
  unfold statusPtrToResult
  by_cases isErr : statusPtrIsErr ptr = true
  · rw [if_pos isErr]
    exact Or.inl ⟨_, rfl⟩
  · rw [if_neg isErr]
    by_cases immediate : ptr ≤ statusWord .inProgress
    · rw [if_pos immediate]
      exact Or.inr (Or.inl rfl)
    · rw [if_neg immediate]
      have nonNull : ptr ≠ 0 := by
        rintro rfl
        exact immediate (by decide)
      refine Or.inr (Or.inr ?_)
      unfold Request.new NonNull.new
      rw [dif_pos nonNull]
      rfl

/-- The pointer of the request that a status pointer decodes to. -/
def decodedRequest : Except Status (Option Request) → Option NonNull
  | .ok (some request) => request.handle
  | _ => none

/-- A status pointer decodes to a request exactly when it is a request's
address. -/
theorem decodedRequest_statusPtr (ptr : Word) :
    decodedRequest (statusPtrToResult ptr) = (NonNull.new ptr).filter isRequestPointer := by
  by_cases null : ptr = 0
  · rw [null, NonNull.new_zero]
    rfl
  · have nonNull : NonNull.new ptr = some ⟨ptr, null⟩ := dif_pos null
    rw [nonNull, Option.filter_some]
    unfold statusPtrToResult isRequestPointer
    by_cases isErr : statusPtrIsErr ptr = true
    · rw [if_pos isErr, isErr]
      rfl
    · rw [if_neg isErr, Bool.eq_false_iff.mpr isErr]
      by_cases immediate : ptr ≤ statusWord .inProgress
      · rw [if_pos immediate, decide_eq_false (BitVec.not_lt.mpr immediate)]
        rfl
      · rw [if_neg immediate, decide_eq_true (BitVec.not_le.mp immediate)]
        unfold Request.new
        rw [nonNull]
        rfl

def requestProtocol : Protocol Call Answer NonNull where
  names := namedRequest
  releases := releasedRequest
  grants := grantedRequest
  tracked := isRequestPointer
  names_of_releases := by
    intro call handle released
    cases call <;> first | exact released | cases released
  grants_of_releases := by
    intro call handle released answer
    cases call <;> first | rfl | cases released

inductive Wrapper where
  | request (request : Request)
  | tag (guard : TagRequest)
  | stream (guard : StreamRequest)
  | fetch (guard : FetchAmoRequest)
  deriving DecidableEq, Repr

def Wrapper.handle : Wrapper → Option NonNull
  | .request inner => inner.handle
  | tag guard => guard.handle
  | stream guard => guard.request.bind fun request => request.handle
  | fetch guard => guard.request.bind fun request => request.handle

/-- The methods that some wrapper offers. -/
inductive Operation where
  | checkFinished
  | isCompleted
  | test
  | streamRecvTest
  | tagRecvTest
  | waitRequest (worker : Worker)
  | cancelRequest (worker : Worker)
  | cancel (worker : Worker)
  | free
  | release
  | intoInner
  | drop
  deriving DecidableEq, Repr

/-- The wrapper that `into_inner` of a stream or fetch-atomic guard leaves. -/
def movesInner (request : Option Request) : Outcome Wrapper :=
  match request with
  | some request => .moves (.request request)
  | none => .ends

def ofRequest (request : Request) : Operation → Option (Ffi (Outcome Wrapper))
  | .checkFinished => some ((fun _ => .keeps (.request request)) <$> request.checkFinished)
  | .isCompleted => some ((fun _ => .keeps (.request request)) <$> request.isCompleted)
  | .test => some ((fun _ => .keeps (.request request)) <$> request.test)
  | .streamRecvTest => some ((fun _ => .keeps (.request request)) <$> request.streamRecvTest)
  | .tagRecvTest => some ((fun _ => .keeps (.request request)) <$> request.tagRecvTest)
  | .waitRequest worker =>
      some ((fun _ => .keeps (.request request)) <$> worker.waitRequest request)
  | .cancelRequest worker =>
      some ((fun _ => .keeps (.request request)) <$> worker.cancelRequest request)
  | .cancel worker => some ((fun left => .keeps (.request left)) <$> request.cancel worker)
  | .free => some ((fun _ => .ends) <$> request.free)
  | .release => some ((fun _ => .ends) <$> request.release)
  | .intoInner => none
  | .drop => some ((fun _ => .ends) <$> request.drop)

def ofTagRequest (guard : TagRequest) : Operation → Option (Ffi (Outcome Wrapper))
  | .checkFinished => some ((fun result => .keeps (.tag result.2)) <$> guard.checkFinished)
  | .free => some ((fun _ => .ends) <$> guard.free)
  | .intoInner => some ((fun request => .moves (.request request)) <$> guard.intoInner)
  | .drop => some ((fun _ => .ends) <$> guard.drop)
  | _ => none

def ofStreamRequest (guard : StreamRequest) : Operation → Option (Ffi (Outcome Wrapper))
  | .checkFinished => some ((fun _ => .keeps (.stream guard)) <$> guard.checkFinished)
  | .streamRecvTest => some ((fun _ => .keeps (.stream guard)) <$> guard.streamRecvTest)
  | .free => some ((fun _ => .ends) <$> guard.free)
  | .intoInner => some (movesInner <$> guard.intoInner)
  | .drop => some ((fun _ => .ends) <$> guard.drop)
  | _ => none

def ofFetchAmoRequest (guard : FetchAmoRequest) : Operation → Option (Ffi (Outcome Wrapper))
  | .checkFinished => some ((fun _ => .keeps (.fetch guard)) <$> guard.checkFinished)
  | .free => some ((fun _ => .ends) <$> guard.free)
  | .intoInner => some (movesInner <$> guard.intoInner)
  | .drop => some ((fun _ => .ends) <$> guard.drop)
  | _ => none

def operate (operation : Operation) : Wrapper → Option (Ffi (Outcome Wrapper))
  | .request request => ofRequest request operation
  | .tag guard => ofTagRequest guard operation
  | .stream guard => ofStreamRequest guard operation
  | .fetch guard => ofFetchAmoRequest guard operation

/-- A program that operates on the pointer it holds. -/
abbrev Operates {Result : Type} (ensures : Result → Option NonNull → Prop)
    (program : Ffi Result) (held : Option NonNull) : Prop :=
  requestProtocol.Respects requestProtocol.Operates ensures program held

variable {Result : Type} {ensures : Result → Option NonNull → Prop} {handle : NonNull}

theorem operates_of_grantless {call : Call}
    (grantless : ∀ answer, grantedRequest call answer = none) :
    requestProtocol.Operates call (some handle) :=
  ⟨Option.some_ne_none handle, grantless⟩

/-- A query of the held pointer. -/
theorem operates_query {call : Call} {resume : Answer call → Ffi Result}
    (named : namedRequest call = none ∨ namedRequest call = some handle)
    (kept : releasedRequest call = none)
    (grantless : ∀ answer, grantedRequest call answer = none)
    (rest : ∀ answer, Operates ensures (resume answer) (some handle)) :
    Operates ensures (.issue call resume) (some handle) := by
  refine Protocol.Respects.query (operates_of_grantless grantless) ?_ kept grantless rest
  intro other otherNamed
  rcases named with none | some
  · exact absurd (none.symm.trans otherNamed) (Option.some_ne_none other).symm
  · exact some.symm.trans otherNamed

theorem operates_progress {worker : Worker} {next : Bool → Ffi Result}
    (rest : ∀ moved, Operates ensures (next moved) (some handle)) :
    Operates ensures (worker.progress >>= next) (some handle) :=
  operates_query (Or.inl rfl) rfl (fun _ => rfl) (fun _ => rest _)

theorem operates_free {resume : Unit → Ffi Result}
    (rest : Operates ensures (resume ()) none) :
    Operates ensures (.issue (.ucpRequestFree handle) resume) (some handle) :=
  Protocol.Respects.release (operates_of_grantless fun _ => rfl) rfl (fun _ => rest)

/-- `check_finished` keeps the pointer it asks about, and knows a finished
request only when it has none. -/
theorem operates_checkFinished {request : Request}
    {next : Except Status Bool → Ffi Result}
    (inert : request.handle = none → Operates ensures (next (.ok true)) none)
    (live : ∀ handle result, request.handle = some handle →
      Operates ensures (next result) (some handle)) :
    Operates ensures (request.checkFinished >>= next) request.handle := by
  obtain ⟨_ | handle⟩ := request
  · exact inert rfl
  · rw [Request.checkFinished_some]
    exact operates_query (Or.inr rfl) rfl (fun _ => rfl) (fun _ => live handle _ rfl)

/-- A method ends with a wrapper that holds at most what the method held. -/
abbrev leaves (outcome : Outcome Wrapper) (held : Option NonNull) : Prop :=
  ∀ wrapper owned, outcome.resident = some wrapper → wrapper.handle = some owned →
    held = some owned

theorem leaves_ends (held : Option NonNull) : leaves .ends held := by
  rintro _ _ ⟨⟩

theorem leaves_keeps {wrapper : Wrapper} {held : Option NonNull}
    (holds : wrapper.handle = held) : leaves (.keeps wrapper) held := by
  rintro _ owned ⟨⟩ owns
  exact holds.symm.trans owns

theorem leaves_movesInner (request : Option Request) :
    leaves (movesInner request) (request.bind fun request => request.handle) := by
  cases request with
  | none => exact leaves_ends none
  | some request =>
      rintro _ owned ⟨⟩ owns
      exact owns

/-- The methods that ask UCX about the held pointer, if there is one, and leave
the wrapper as it is. -/
theorem operates_ofRequest {request : Request} {operation : Operation}
    {program : Ffi (Outcome Wrapper)} (operated : ofRequest request operation = some program) :
    Operates leaves program request.handle := by
  have keeps : ∀ {held : Option NonNull}, held = request.handle →
      leaves (.keeps (.request request)) held :=
    fun same => leaves_keeps same.symm
  cases operation with
  | checkFinished =>
      cases operated
      rw [map_eq_pure_bind]
      exact operates_checkFinished (fun none => keeps none.symm)
        (fun handle result some => keeps some.symm)
  | isCompleted =>
      cases operated
      obtain ⟨_ | handle⟩ := request
      · exact keeps rfl
      · exact operates_query (Or.inr rfl) rfl (fun _ => rfl) (fun _ => keeps rfl)
  | test =>
      cases operated
      obtain ⟨_ | handle⟩ := request
      · exact keeps rfl
      · exact operates_query (Or.inr rfl) rfl (fun _ => rfl) (fun _ => keeps rfl)
  | streamRecvTest =>
      cases operated
      obtain ⟨_ | handle⟩ := request
      · exact keeps rfl
      · exact operates_query (Or.inr rfl) rfl (fun _ => rfl) (fun _ => keeps rfl)
  | tagRecvTest =>
      cases operated
      obtain ⟨_ | handle⟩ := request
      · exact keeps rfl
      · exact operates_query (Or.inr rfl) rfl (fun _ => rfl) (fun _ => keeps rfl)
  | waitRequest worker =>
      cases operated
      refine Protocol.Respects.map ?_
      unfold Worker.waitRequest
      refine Protocol.Respects.forRounds ?_ ?_ _
      · refine operates_checkFinished (fun none => keeps none.symm)
          (fun handle result some => ?_)
        rcases result with error | _ | _
        · exact keeps some.symm
        · exact operates_progress fun _ => some.symm
        · exact keeps some.symm
      · exact keeps rfl
  | cancelRequest worker =>
      cases operated
      obtain ⟨_ | handle⟩ := request
      · exact keeps rfl
      · exact operates_query (Or.inr rfl) rfl (fun _ => rfl) (fun _ => keeps rfl)
  | cancel worker =>
      cases operated
      obtain ⟨_ | handle⟩ := request
      · exact keeps rfl
      · refine operates_query (Or.inr rfl) rfl (fun _ => rfl) (fun _ => operates_free ?_)
        rintro _ _ ⟨⟩ ⟨⟩
  | free =>
      cases operated
      obtain ⟨_ | handle⟩ := request
      · exact leaves_ends none
      · exact operates_free (leaves_ends none)
  | release =>
      cases operated
      obtain ⟨_ | handle⟩ := request
      · exact leaves_ends none
      · exact Protocol.Respects.release (operates_of_grantless fun _ => rfl) rfl
          (fun _ => leaves_ends none)
  | intoInner => cases operated
  | drop =>
      cases operated
      obtain ⟨_ | handle⟩ := request
      · exact leaves_ends none
      · exact operates_free (leaves_ends none)

/-- The loop of the stream and fetch-atomic guards, which ends with nothing to
keep. -/
theorem operates_progressToCompletion {request : Request} {worker : Worker}
    {next : Unit → Ffi Result} (rest : ∀ held, Operates ensures (next ()) held) :
    Operates ensures (progressToCompletion request worker >>= next) request.handle := by
  refine Protocol.Respects.bind ?_
  unfold progressToCompletion
  refine Protocol.Respects.forRounds ?_ ?_ _
  · refine operates_checkFinished (fun inert => ?_) (fun handle result live => ?_)
    · obtain ⟨_⟩ := request
      cases inert
      exact rest none
    · obtain ⟨_⟩ := request
      cases live
      rcases result with error | _ | _
      · exact operates_free (rest none)
      · exact operates_progress fun _ => rfl
      · exact operates_free (rest none)
  · exact rest request.handle

theorem operates_dropStream {guard : StreamRequest} {next : Unit → Ffi Result}
    (rest : ∀ held, Operates ensures (next ()) held) :
    Operates ensures (guard.drop >>= next)
      (guard.request.bind fun request => request.handle) := by
  obtain ⟨_ | request, worker, length⟩ := guard
  · exact rest none
  · exact operates_progressToCompletion rest

theorem operates_dropFetch {guard : FetchAmoRequest} {next : Unit → Ffi Result}
    (rest : ∀ held, Operates ensures (next ()) held) :
    Operates ensures (guard.drop >>= next)
      (guard.request.bind fun request => request.handle) := by
  obtain ⟨_ | request, worker⟩ := guard
  · exact rest none
  · exact operates_progressToCompletion rest

/-- The tag guard ends its wait without a pointer, or the process ends. -/
theorem operates_completeWithin {guard : TagRequest} {remaining : Nat}
    {next : Except Status Unit × TagRequest → Ffi Result}
    (rest : ∀ result, Operates ensures (next (result, { guard with handle := none })) none) :
    Operates ensures (guard.completeWithin remaining >>= next) guard.handle := by
  obtain ⟨worker, handle⟩ := guard
  refine Protocol.Respects.bind ?_
  induction remaining with
  | zero =>
      unfold TagRequest.completeWithin TagRequest.checkFinished
      rw [bind_assoc]
      refine operates_checkFinished (fun none => ?_) (fun handle result some => ?_)
      · cases none
        exact rest (.ok ())
      · cases some
        rcases result with error | _ | _
        · exact operates_free (rest (.error error))
        · exact operates_query (Or.inl rfl) rfl (fun never : Empty => never.elim)
            (fun never : Empty => never.elim)
        · exact operates_free (rest (.ok ()))
  | succ remaining ih =>
      unfold TagRequest.completeWithin TagRequest.checkFinished
      rw [bind_assoc]
      refine operates_checkFinished (fun none => ?_) (fun handle result some => ?_)
      · cases none
        exact rest (.ok ())
      · cases some
        rcases result with error | _ | _
        · exact operates_free (rest (.error error))
        · exact operates_progress fun _ => ih
        · exact operates_free (rest (.ok ()))

theorem operates_ofTagRequest {guard : TagRequest} {operation : Operation}
    {program : Ffi (Outcome Wrapper)}
    (operated : ofTagRequest guard operation = some program) :
    Operates leaves program guard.handle := by
  cases operation with
  | checkFinished =>
      cases operated
      rw [map_eq_pure_bind]
      unfold TagRequest.checkFinished
      rw [bind_assoc]
      exact @operates_checkFinished _ _ ⟨guard.handle⟩ _
        (fun none => leaves_keeps none) (fun handle result some => leaves_keeps some)
  | free =>
      cases operated
      rw [map_eq_pure_bind]
      unfold TagRequest.free
      rw [bind_assoc]
      refine operates_completeWithin fun result => ?_
      simp only [TagRequest.drop_none, Program.done_bind, Program.pure_eq_done]
      exact leaves_ends none
  | intoInner =>
      cases operated
      rw [TagRequest.intoInner_eq]
      rintro _ owned ⟨⟩ owns
      exact owns
  | drop =>
      cases operated
      rw [map_eq_pure_bind]
      unfold TagRequest.drop
      rw [bind_assoc]
      exact operates_completeWithin fun result => leaves_ends none
  | _ => cases operated

theorem operates_ofStreamRequest {guard : StreamRequest} {operation : Operation}
    {program : Ffi (Outcome Wrapper)}
    (operated : ofStreamRequest guard operation = some program) :
    Operates leaves program (guard.request.bind fun request => request.handle) := by
  cases operation with
  | checkFinished =>
      cases operated
      rw [map_eq_pure_bind]
      obtain ⟨_ | request, worker, length⟩ := guard
      · exact leaves_keeps rfl
      · exact operates_checkFinished (fun none => leaves_keeps none)
          (fun handle result some => leaves_keeps some)
  | streamRecvTest =>
      cases operated
      obtain ⟨_ | ⟨_ | handle⟩, worker, length⟩ := guard
      · exact leaves_keeps rfl
      · exact leaves_keeps rfl
      · exact operates_query (Or.inr rfl) rfl (fun _ => rfl) (fun _ => leaves_keeps rfl)
  | free =>
      cases operated
      rw [map_eq_pure_bind, StreamRequest.free_eq_drop]
      exact operates_dropStream fun held => leaves_ends held
  | intoInner =>
      cases operated
      rw [StreamRequest.intoInner_eq]
      exact leaves_movesInner guard.request
  | drop =>
      cases operated
      rw [map_eq_pure_bind]
      exact operates_dropStream fun held => leaves_ends held
  | _ => cases operated

theorem operates_ofFetchAmoRequest {guard : FetchAmoRequest} {operation : Operation}
    {program : Ffi (Outcome Wrapper)}
    (operated : ofFetchAmoRequest guard operation = some program) :
    Operates leaves program (guard.request.bind fun request => request.handle) := by
  cases operation with
  | checkFinished =>
      cases operated
      rw [map_eq_pure_bind]
      obtain ⟨_ | request, worker⟩ := guard
      · exact leaves_keeps rfl
      · exact operates_checkFinished (fun none => leaves_keeps none)
          (fun handle result some => leaves_keeps some)
  | free =>
      cases operated
      rw [map_eq_pure_bind, FetchAmoRequest.free_eq_drop]
      exact operates_dropFetch fun held => leaves_ends held
  | intoInner =>
      cases operated
      rw [FetchAmoRequest.intoInner_eq]
      exact leaves_movesInner guard.request
  | drop =>
      cases operated
      rw [map_eq_pure_bind]
      exact operates_dropFetch fun held => leaves_ends held
  | _ => cases operated

theorem operates_operate {operation : Operation} {wrapper : Wrapper}
    {program : Ffi (Outcome Wrapper)} (operated : operate operation wrapper = some program) :
    Operates leaves program wrapper.handle := by
  cases wrapper with
  | request request => exact operates_ofRequest operated
  | tag guard => exact operates_ofTagRequest operated
  | stream guard => exact operates_ofStreamRequest operated
  | fetch guard => exact operates_ofFetchAmoRequest operated

end RequestHandles

end UcxRs
