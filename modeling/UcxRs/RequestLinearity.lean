import UcxRs.RequestHandles

/-!
# Request handles are linear

The operations that post a request and the methods of the wrappers form a
component of the ownership library.  Its runs interleave any number of
operations call by call, with every answer UCX may give, so what the library
proves of components holds of the wrappers in every run: a request pointer has
one owner at a time, UCX is given it back at most once, no call names it
afterwards, and a wrapper that gave its pointer up is silent.
-/

namespace UcxRs

namespace RequestLinearity

open HandleOwnership
open RequestHandles
open TransitionRuns

/-- The operations that post a request.  The three atomic ones are the bodies
that all atomic operations of the wrapper are instances of; the last three wait
for the request they post themselves. -/
inductive Posting where
  | tagSend (ep : Ep) (worker : Worker) (data : Buffer) (tag : Word) (param : RequestParam)
  | tagSendSync (ep : Ep) (data : Buffer) (tag : Word)
  | tagSendPtr (ep : Ep) (data : Buffer) (tag : Word) (param : RequestParam)
  | tagRecv (receiver worker : Worker) (data : Buffer) (tag mask : Word)
      (param : RequestParam)
  | tagRecvPtr (worker : Worker) (data : Buffer) (tag mask : Word) (param : RequestParam)
  | tagMsgRecv (worker : Worker) (data : Buffer) (message : MessageHandle)
      (param : RequestParam)
  | tagSendSyncNbx (ep : Ep) (buffer : Buffer) (tag : Word)
  | tagMsgRecvNb (worker : Worker) (buffer : Buffer) (datatype : Word)
      (message : MessageHandle)
  | streamSend (ep : Ep) (worker : Worker) (data : Buffer) (param : RequestParam)
  | streamRecv (ep : Ep) (worker : Worker) (buf : Buffer) (param : RequestParam)
  | streamSendNbx (ep : Ep) (buffer : Buffer) (param : RequestParam)
  | streamRecvNbx (ep : Ep) (buffer : Buffer) (param : RequestParam)
  | amSend (ep : Ep) (id : BitVec 32) (header data : Buffer) (params : RequestParam)
  | amRecvData (worker : Worker) (dataDesc : NonNull) (buffer : Buffer)
      (params : RequestParam)
  | amRecvDataNbx (worker : Worker) (dataDesc : Word) (buffer : Buffer)
  | rmaPut (ep : Ep) (buffer : Buffer) (remoteAddr : Word) (rkey : RemoteKey)
      (param : RequestParam)
  | rmaGet (ep : Ep) (buffer : Buffer) (remoteAddr : Word) (rkey : RemoteKey)
      (param : RequestParam)
  | requestAlloc (worker : Worker)
  | amo (ep : Ep) (opcode : UcpAtomicOp) (operand : List (BitVec 8)) (size : Nat)
      (remoteAddr : Word) (rkey : RemoteKey) (param : RequestParam)
  | amoFetch (ep : Ep) (worker : Worker) (opcode : UcpAtomicOp) (operand : List (BitVec 8))
      (size : Nat) (remoteAddr : Word) (rkey : RemoteKey) (reply : Word)
  | atomicOpNbx (ep : Ep) (opcode : AtomicOp) (buffer : List (BitVec 8)) (count : Nat)
      (remoteAddr : Word) (rkey : RemoteKey) (param : RequestParam)
  | flushWorker (worker : Worker) (params : RequestParam)
  | flushEp (ep : Ep) (params : RequestParam)
  | modify (ep : Ep) (params : ModifyParams)
  | disconnectNb (ep : Ep)
  | closeEp (ep : Ep) (worker : Worker) (flags : BitVec 32)
  | dropEp (ep : Ep)
  | dropWorker (worker : Worker)

def keepsOption : Option Wrapper → Outcome Wrapper
  | some wrapper => .keeps wrapper
  | none => .ends

/-- An error leaves no wrapper. -/
def ofResult {Value : Type} (outcome : Value → Outcome Wrapper) :
    Except Status Value → Outcome Wrapper
  | .ok value => outcome value
  | .error _ => .ends

def ofRequestResult : Except Status (Option Request) → Outcome Wrapper :=
  ofResult fun request => keepsOption (request.map .request)

def post : Posting → Ffi (Outcome Wrapper)
  | .tagSend ep worker data tag param =>
      (ofResult fun guard => keepsOption (guard.map .tag)) <$>
        ep.tagSend worker data tag param
  | .tagSendSync ep data tag =>
      (ofResult fun request => .keeps (.request request)) <$> ep.tagSendSync data tag
  | .tagSendPtr ep data tag param => ofRequestResult <$> ep.tagSendPtr data tag param
  | .tagRecv receiver worker data tag mask param =>
      (ofResult fun guard => .keeps (.tag guard)) <$>
        receiver.tagRecv worker data tag mask param
  | .tagRecvPtr worker data tag mask param =>
      ofRequestResult <$> worker.tagRecvPtr data tag mask param
  | .tagMsgRecv worker data message param =>
      (fun returned => (returned.map ofRequestResult).getD .ends) <$>
        worker.tagMsgRecv data message param
  | .tagSendSyncNbx ep buffer tag =>
      (fun request => .keeps (.request request)) <$> tagSendSyncNbx ep buffer tag
  | .tagMsgRecvNb worker buffer datatype message =>
      (fun request => .keeps (.request request)) <$>
        tagMsgRecvNb worker buffer datatype message
  | .streamSend ep worker data param =>
      (ofResult fun guard => keepsOption (guard.map .stream)) <$>
        ep.streamSend worker data param
  | .streamRecv ep worker buf param =>
      (ofResult fun guard => .keeps (.stream guard)) <$> ep.streamRecv worker buf param
  | .streamSendNbx ep buffer param => ofRequestResult <$> streamSendNbx ep buffer param
  | .streamRecvNbx ep buffer param => ofRequestResult <$> streamRecvNbx ep buffer param
  | .amSend ep id header data params => ofRequestResult <$> ep.amSend id header data params
  | .amRecvData worker dataDesc buffer params =>
      ofRequestResult <$> worker.amRecvData dataDesc buffer params
  | .amRecvDataNbx worker dataDesc buffer =>
      (fun request => .keeps (.request request)) <$> amRecvDataNbx worker dataDesc buffer
  | .rmaPut ep buffer remoteAddr rkey param =>
      ofRequestResult <$> ep.rmaPut buffer remoteAddr rkey param
  | .rmaGet ep buffer remoteAddr rkey param =>
      ofRequestResult <$> ep.rmaGet buffer remoteAddr rkey param
  | .requestAlloc worker =>
      (fun request => .keeps (.request request)) <$> requestAlloc worker
  | .amo ep opcode operand size remoteAddr rkey param =>
      ofRequestResult <$> ep.amo opcode operand size remoteAddr rkey param
  | .amoFetch ep worker opcode operand size remoteAddr rkey reply =>
      (ofResult fun guard => .keeps (.fetch guard)) <$>
        ep.amoFetch worker opcode operand size remoteAddr rkey reply
  | .atomicOpNbx ep opcode buffer count remoteAddr rkey param =>
      ofRequestResult <$> UcxRs.atomicOpNbx ep opcode buffer count remoteAddr rkey param
  | .flushWorker worker params => ofRequestResult <$> worker.flush params
  | .flushEp ep params => ofRequestResult <$> ep.flush params
  | .modify ep params => ofRequestResult <$> ep.modify params
  | .disconnectNb ep => ofRequestResult <$> ep.disconnectNb
  | .closeEp ep worker flags => (fun _ => .ends) <$> ep.close worker flags
  | .dropEp ep => (fun _ => .ends) <$> ep.drop
  | .dropWorker worker => (fun _ => .ends) <$> worker.drop

abbrev Posts {Result : Type} (ensures : Result → Option NonNull → Prop)
    (program : Ffi Result) (held : Option NonNull) : Prop :=
  requestProtocol.Respects (fun _ _ => True) ensures program held

/-- What a posting leaves of its status pointer holds the pointer, if
anything. -/
theorem leaves_statusPtr {outcome : Except Status (Option Request) → Outcome Wrapper}
    (error : ∀ error held, leaves (outcome (.error error)) held)
    (immediate : ∀ held, leaves (outcome (.ok none)) held)
    (pending : ∀ request, leaves (outcome (.ok (some request))) request.handle)
    (ptr : Word) : leaves (outcome (statusPtrToResult ptr)) (NonNull.new ptr) := by
  rcases statusPtrToResult_cases ptr with ⟨status, failed⟩ | done | posted
  · rw [failed]
    exact error status _
  · rw [done]
    exact immediate _
  · rw [posted]
    exact pending ⟨NonNull.new ptr⟩

theorem leaves_ofRequestResult (ptr : Word) :
    leaves (ofRequestResult (statusPtrToResult ptr)) (NonNull.new ptr) :=
  leaves_statusPtr (fun _ => leaves_ends) leaves_ends (fun _ => leaves_keeps rfl) ptr

variable {Result : Type} {ensures : Result → Option NonNull → Prop}

/-- A call before anything is held. -/
theorem posts_call {call : Call} {resume : Answer call → Ffi Result}
    (unnamed : namedRequest call = none)
    (rest : ∀ answer, Posts ensures (resume answer) (grantedRequest call answer)) :
    Posts ensures (.issue call resume) none := by
  refine ⟨trivial, fun handle named => ?_, fun answer => ?_⟩
  · exact absurd (unnamed.symm.trans named) (Option.some_ne_none handle).symm
  · rw [Protocol.heldAfter_none]
    exact rest answer

/-- A call that has nothing to do with requests. -/
theorem posts_aside {call : Call} {resume : Answer call → Ffi Result}
    {held : Option NonNull} (unnamed : namedRequest call = none)
    (grantless : ∀ answer, grantedRequest call answer = none)
    (rest : ∀ answer, Posts ensures (resume answer) held) :
    Posts ensures (.issue call resume) held := by
  refine Protocol.Respects.query trivial ?_ ?_ grantless rest
  · intro handle named
    exact absurd (unnamed.symm.trans named) (Option.some_ne_none handle).symm
  · cases call <;> first | rfl | cases unnamed

theorem operates_awaitClose (request : Request) (worker : Worker) :
    Operates (fun _ _ => True) (Ep.awaitClose request worker) request.handle := by
  unfold Ep.awaitClose
  refine Protocol.Respects.forRounds ?_ ?_ _
  · refine operates_checkFinished (fun inert => ?_) (fun handle result live => ?_)
    · obtain ⟨_⟩ := request
      cases inert
      exact trivial
    · obtain ⟨_⟩ := request
      cases live
      match result with
      | .ok true => exact operates_free trivial
      | .ok false => exact operates_progress fun _ => rfl
      | .error error => exact trivial
  · exact trivial

theorem operates_awaitFlush (worker : Worker) (request : Request) :
    Operates (fun _ held => held = request.handle) (worker.awaitFlush request)
      request.handle := by
  unfold Worker.awaitFlush
  refine Protocol.Respects.forRounds ?_ ?_ _
  · refine operates_checkFinished (fun inert => inert.symm) (fun handle result live => ?_)
    match result with
    | .ok true => exact live.symm
    | .ok false => exact operates_progress fun _ => live.symm
    | .error error => exact live.symm
  · rfl

theorem posts_disconnectNb (ep : Ep) : Posts leaves (post (.disconnectNb ep)) none := by
  refine posts_aside rfl (fun _ => rfl) fun (alive : Bool) => ?_
  cases alive with
  | false => exact leaves_ends none
  | true =>
      refine posts_call rfl fun (ptr : Word) => ?_
      rcases statusPtrToResult_cases ptr with ⟨status, failed⟩ | done | posted
      · simp only [Interaction.Program.andThen, failed]
        exact posts_aside rfl (fun _ => rfl) fun _ => leaves_ends _
      · simp only [Interaction.Program.andThen, done]
        exact leaves_ends _
      · simp only [Interaction.Program.andThen, posted]
        exact leaves_keeps rfl

theorem posts_closeEp (ep : Ep) (worker : Worker) (flags : BitVec 32) :
    Posts leaves (post (.closeEp ep worker flags)) none := by
  refine posts_call rfl fun (ptr : Word) => ?_
  rcases statusPtrToResult_cases ptr with ⟨status, failed⟩ | done | posted
  · simp only [Interaction.Program.andThen, failed]
    exact leaves_ends _
  · simp only [Interaction.Program.andThen, done]
    exact leaves_ends _
  · simp only [Interaction.Program.andThen, posted]
    refine Protocol.Respects.map ?_
    exact (operates_awaitClose ⟨NonNull.new ptr⟩ worker).mono (fun _ _ _ => trivial)
      (fun _ held _ => leaves_ends held)

theorem posts_dropEp (ep : Ep) : Posts leaves (post (.dropEp ep)) none := by
  refine posts_aside rfl (fun _ => rfl) fun (alive : Bool) => ?_
  cases alive with
  | false => exact leaves_ends none
  | true =>
      refine posts_call rfl fun (ptr : Word) => ?_
      rcases statusPtrToResult_cases ptr with ⟨status, failed⟩ | done | posted
      · simp only [Interaction.Program.andThen, failed]
        exact leaves_ends _
      · simp only [Interaction.Program.andThen, done]
        exact leaves_ends _
      · simp only [Interaction.Program.andThen, posted]
        exact leaves_ends _

theorem posts_dropWorker (worker : Worker) :
    Posts leaves (post (.dropWorker worker)) none := by
  refine posts_aside rfl (fun _ => rfl) fun _ => ?_
  refine posts_call rfl fun (ptr : Word) => ?_
  have destroys : ∀ held, Posts leaves
      ((fun _ => .ends) <$> perform (.ucpWorkerDestroy worker.handle)) held :=
    fun held => posts_aside rfl (fun _ => rfl) fun _ => leaves_ends held
  rcases statusPtrToResult_cases ptr with ⟨status, failed⟩ | done | posted
  · simp only [Interaction.Program.andThen, failed]
    exact destroys _
  · simp only [Interaction.Program.andThen, done]
    exact destroys _
  · simp only [Interaction.Program.andThen, posted]
    refine Protocol.Respects.map (Protocol.Respects.bind (Protocol.Respects.bind ?_))
    refine (operates_awaitFlush worker ⟨NonNull.new ptr⟩).mono (fun _ _ _ => trivial) ?_
    rintro _ held rfl
    cases NonNull.new ptr with
    | none => exact posts_aside rfl (fun _ => rfl) fun _ => leaves_ends none
    | some handle =>
        refine Protocol.Respects.release trivial rfl fun _ => ?_
        exact posts_aside rfl (fun _ => rfl) fun _ => leaves_ends none

theorem posts_post (posting : Posting) : Posts leaves (post posting) none := by
  cases posting with
  | tagSend ep worker data tag param =>
      exact posts_call rfl (@leaves_statusPtr
        (fun result => ofResult (fun guard : Option TagRequest => keepsOption (guard.map .tag))
          (result.map fun request : Option Request =>
            request.map fun request : Request => ⟨worker, request.handle⟩))
        (fun _ => leaves_ends) leaves_ends (fun _ => leaves_keeps rfl))
  | tagSendSync ep data tag =>
      exact posts_call rfl (@leaves_statusPtr
        (fun result => ofResult (fun request => .keeps (.request request))
          (result.map fun request : Option Request => request.getD ⟨none⟩))
        (fun _ => leaves_ends) (fun _ => by rintro _ _ ⟨⟩ ⟨⟩) (fun _ => leaves_keeps rfl))
  | tagRecv receiver worker data tag mask param =>
      exact posts_call rfl (@leaves_statusPtr
        (fun result => ofResult (fun guard => .keeps (.tag guard))
          (result.map fun request : Option Request =>
            ⟨worker, request.bind fun request => request.handle⟩))
        (fun _ => leaves_ends) (fun _ => by rintro _ _ ⟨⟩ ⟨⟩) (fun _ => leaves_keeps rfl))
  | tagMsgRecv worker data message param =>
      obtain ⟨handle, info, _ | _⟩ := message
      · exact leaves_ends none
      · exact posts_call rfl leaves_ofRequestResult
  | tagSendSyncNbx ep buffer tag => exact posts_call rfl fun _ => leaves_keeps rfl
  | tagMsgRecvNb worker buffer datatype message =>
      exact posts_call rfl fun _ => leaves_keeps rfl
  | streamSend ep worker data param =>
      exact posts_call rfl (@leaves_statusPtr
        (fun result =>
          ofResult (fun guard : Option StreamRequest => keepsOption (guard.map .stream))
            (result.map fun request : Option Request =>
              request.map fun request => ⟨some request, worker, 0⟩))
        (fun _ => leaves_ends) leaves_ends (fun _ => leaves_keeps rfl))
  | streamRecv ep worker buf param =>
      refine posts_call rfl fun (answer : Word × Option Nat) => ?_
      exact @leaves_statusPtr
        (fun result => ofResult (fun guard => .keeps (.stream guard))
          (result.map fun request => ⟨request, worker, answer.2.getD 0⟩))
        (fun _ => leaves_ends) (fun _ => by rintro _ _ ⟨⟩ ⟨⟩) (fun _ => leaves_keeps rfl)
        answer.1
  | streamRecvNbx ep buffer param =>
      exact posts_call rfl fun (answer : Word × Option Nat) =>
        leaves_ofRequestResult answer.1
  | amRecvDataNbx worker dataDesc buffer => exact posts_call rfl fun _ => leaves_keeps rfl
  | requestAlloc worker => exact posts_call rfl fun _ => leaves_keeps rfl
  | amoFetch ep worker opcode operand size remoteAddr rkey reply =>
      exact posts_call rfl (@leaves_statusPtr
        (fun result => ofResult (fun guard => .keeps (.fetch guard))
          (result.map fun request => fetchAmoResult request worker))
        (fun _ => leaves_ends) (fun _ => by rintro _ _ ⟨⟩ ⟨⟩) (fun _ => leaves_keeps rfl))
  | disconnectNb ep => exact posts_disconnectNb ep
  | closeEp ep worker flags => exact posts_closeEp ep worker flags
  | dropEp ep => exact posts_dropEp ep
  | dropWorker worker => exact posts_dropWorker worker
  | _ => exact posts_call rfl leaves_ofRequestResult

def requests : Component Call Answer NonNull Wrapper Posting Operation where
  toProtocol := requestProtocol
  handle := Wrapper.handle
  post := post
  operate := operate
  post_respects := posts_post
  operate_respects := operates_operate

abbrev State := World Call Answer NonNull Wrapper

abbrev Step := Label Call Answer Posting Operation

/-- The wrapper in a slot, or the operation running there, holds a request
pointer. -/
def Holds (state : State) (index : Nat) (pointer : NonNull) : Prop :=
  (state.slots index).held Wrapper.handle = some pointer

/-- A request pointer has one holder, it is not named between its release and
its next grant, and a wrapper that has released its pointer has given up and
makes no further call in any continuation of the run. -/
structure HandlesLinear (state : State) : Prop where
  oneHolder : ∀ pointer first second, isRequestPointer pointer = true →
    Holds state first pointer → Holds state second pointer → first = second
  notNamed : ∀ pointer newer released older, isRequestPointer pointer = true →
    state.log = newer ++ released :: older →
    releasedRequest released.call = some pointer →
    (∀ entry ∈ newer, grantedRequest entry.call entry.answer ≠ some pointer) →
    ∀ entry ∈ newer, namedRequest entry.call ≠ some pointer
  gaveUp : ∀ entry ∈ state.log, entry.posting = false →
    releasedRequest entry.call ≠ none → requests.GaveUp (state.slots entry.slot)
  silent : ∀ index, requests.GaveUp (state.slots index) →
    ∀ run final, runFrom requests.step state run = some final →
      final.callsOf index = state.callsOf index

theorem handles_linear (run : List Step) (state : State)
    (runEq : runFrom requests.step World.initial run = some state) :
    HandlesLinear state := by
  have linear : requests.Linear state := linear_of_reachable ⟨run, runEq⟩
  constructor
  · intro pointer first second tracked firstHolds secondHolds
    exact linear.unique first second pointer tracked firstHolds secondHolds
  · intro pointer newer released older tracked split releases notGranted
    exact linear.not_named_after_release split tracked releases notGranted
  · exact linear.givenUp
  · intro index gaveUp run final continuedEq
    exact silent_run linear gaveUp continuedEq

/-- UCX posts a request at the given address and takes every request back. -/
def postsAt (address : Word) : (call : Call) → Option (Answer call)
  | .ucpStreamSendNbx _ _ _ => some address
  | .ucpRequestCancel _ _ => some ()
  | .ucpRequestFree _ => some ()
  | _ => none

/-- A send is posted, cancelled while it is pending, and dropped. -/
def cancelledSend : List Step :=
  [.post 0 (.streamSendNbx ⟨⟨16⟩, ⟨0⟩⟩ ⟨64, 8⟩ RequestParamBuilder.new.build),
    .answer 0 (postsAt 4096), .finish 0 0, .operate 0 (.cancel ⟨⟨32⟩, ⟨0⟩⟩),
    .answer 0 (postsAt 4096), .answer 0 (postsAt 4096), .finish 0 0,
    .operate 0 .drop, .finish 0 0]

theorem cancelledSend_linear :
    ∃ state, runFrom requests.step World.initial cancelledSend = some state ∧
      state.log.length = 3 ∧ HandlesLinear state :=
  ⟨_, rfl, rfl, handles_linear cancelledSend _ rfl⟩

end RequestLinearity

end UcxRs
