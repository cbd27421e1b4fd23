import UcxRs.RequestGuards
import UcxRs.TransitionRuns

/-!
# Completion queries on live requests

UCX keeps a status for every live request: in progress until some progress call
completes it, then final.  A run interleaves completions with the four
completion queries of the wrapper, each executed against what UCX holds at that
step.

The queries decode the status in three ways.  `checkFinished` and
`tagRecvTest` separate a pending request from a completed one;
`test` and `streamRecvTest` pass the status through `statusToResult`, which
keeps every non-negative status a success.  Hence a run agrees with UCX exactly
when those two are never called on a pending request.
-/

namespace UcxRs

namespace CompletionQueries

open Interaction (Program Environment)
open TransitionRuns

/-- What UCX holds about one request.  The length and the sender tag are final
once the status is; until then UCX may report anything for them. -/
structure RequestRecord where
  status : UcsStatus
  length : Nat
  senderTag : Word
  deriving DecidableEq, Repr

abbrev World := NonNull → RequestRecord

/-- UCX answers a query from the record of the request; the length cell of a
stream query is written only when the receive has completed. -/
def environment (world : World) : Environment Call Answer :=
  fun _ call =>
    match call with
    | .ucpRequestCheckStatus request => some (world request).status
    | .ucpRequestTest request =>
        some ((world request).status,
          ⟨(world request).senderTag, (world request).length⟩)
    | .ucpStreamRecvRequestTest request =>
        some ((world request).status,
          if (world request).status = .ok then some (world request).length else none)
    | .ucpTagRecvRequestTest request =>
        some ((world request).status,
          ⟨(world request).senderTag, (world request).length⟩)
    | _ => none

/-- A completion query on a live request; `guardStreamRecvTest` goes through a
`StreamRequest` that holds the request. -/
inductive Query where
  | checkFinished (handle : NonNull)
  | test (handle : NonNull)
  | streamRecvTest (handle : NonNull)
  | guardStreamRecvTest (worker : Worker) (length : Nat) (handle : NonNull)
  | tagRecvTest (handle : NonNull)
  deriving DecidableEq, Repr

inductive Reply where
  | finished (result : Except Status Bool)
  | tested (state : RequestState)
  | received (result : Except Status Nat)
  | tagReceived (result : Except Status (Option TagInfo))

namespace Query

def handle : Query → NonNull
  | checkFinished handle => handle
  | test handle => handle
  | streamRecvTest handle => handle
  | guardStreamRecvTest _ _ handle => handle
  | tagRecvTest handle => handle

def program : Query → Ffi Reply
  | checkFinished handle => .finished <$> Request.checkFinished ⟨some handle⟩
  | test handle => .tested <$> Request.test ⟨some handle⟩
  | streamRecvTest handle => .received <$> Request.streamRecvTest ⟨some handle⟩
  | guardStreamRecvTest worker length handle =>
      .received <$> StreamRequest.streamRecvTest
        { request := some ⟨some handle⟩, worker := worker, length := length }
  | tagRecvTest handle => .tagReceived <$> Request.tagRecvTest ⟨some handle⟩

/-- The queries that decode the status with `statusToResult`. -/
def UsesStatusToResult : Query → Prop
  | test _ => True
  | streamRecvTest _ => True
  | guardStreamRecvTest _ _ _ => True
  | checkFinished _ => False
  | tagRecvTest _ => False

/-- The reply that reports a completed request. -/
def successReply (record : RequestRecord) : Query → Reply
  | checkFinished _ => .finished (.ok true)
  | test _ => .tested ⟨.ok ()⟩
  | streamRecvTest _ => .received (.ok record.length)
  | guardStreamRecvTest _ _ _ => .received (.ok record.length)
  | tagRecvTest _ => .tagReceived (.ok (some ⟨record.length, record.senderTag⟩))

/-- The reply documented for a pending request. -/
def pendingReply : Query → Reply
  | checkFinished _ => .finished (.ok false)
  | test _ => .tested ⟨.error .inProgress⟩
  | streamRecvTest _ => .received (.error .inProgress)
  | guardStreamRecvTest _ _ _ => .received (.error .inProgress)
  | tagRecvTest _ => .tagReceived (.ok none)

def errorReply (status : UcsStatus) : Query → Reply
  | checkFinished _ => .finished (.error status)
  | test _ => .tested ⟨.error status⟩
  | streamRecvTest _ => .received (.error status)
  | guardStreamRecvTest _ _ _ => .received (.error status)
  | tagRecvTest _ => .tagReceived (.error status)

/-- The reply a query gives for a status, as the source decodes it. -/
def decodedReply (record : RequestRecord) : Query → Reply
  | checkFinished _ => .finished (Request.finishedOfStatus record.status)
  | test _ => .tested ⟨statusToResult record.status⟩
  | streamRecvTest _ => .received ((statusToResult record.status).map fun _ =>
      if record.status = .ok then record.length else 0)
  | guardStreamRecvTest _ _ _ =>
      .received ((statusToResult record.status).map fun _ =>
        if record.status = .ok then record.length else 0)
  | tagRecvTest _ =>
      .tagReceived (mapTagRecvTestStatus record.status
        ⟨record.senderTag, record.length⟩)

end Query

/-- A reply that tells the caller that the request completed successfully. -/
def Reply.ReportsSuccess : Reply → Prop
  | finished result => result = .ok true
  | tested state => state.status = .ok ()
  | received result => ∃ length, result = .ok length
  | tagReceived result => ∃ info, result = .ok (some info)

/-- A reply agrees with UCX: it reports success only for a request that UCX
holds completed, with the final length and tag, and it tells a pending request
and a failed one as documented. -/
structure Agrees (query : Query) (record : RequestRecord) (reply : Reply) :
    Prop where
  success : reply.ReportsSuccess →
    record.status = .ok ∧ reply = query.successReply record
  completed : record.status = .ok → reply = query.successReply record
  pending : record.status = .inProgress → reply = query.pendingReply
  failed : record.status.isErr = true → reply = query.errorReply record.status

inductive Label where
  /-- UCX hands out a request. -/
  | posted (handle : NonNull) (record : RequestRecord)
  /-- A progress call completes a pending request. -/
  | completed (handle : NonNull) (record : RequestRecord)
  | query (query : Query)

def reply (world : World) (query : Query) : Option Reply :=
  (query.program.execute (environment world) []).result

/-- A query leaves what UCX holds unchanged and always returns. -/
def step (world : World) : Label → Option World
  | .posted handle record => some (Function.update world handle record)
  | .completed handle record =>
      if (world handle).status = .inProgress ∧ record.status ≠ .inProgress then
        some (Function.update world handle record)
      else none
  | .query query => (reply world query).map fun _ => world

/-- The queries of a step get a reply that agrees with UCX. -/
def StepAgrees (world : World) (label : Label) (_next : World) : Prop :=
  ∀ query, label = .query query → ∃ answer, reply world query = some answer ∧
    Agrees query (world query.handle) answer

/-- No query of a step decodes a pending status with `statusToResult`. -/
def DecodesNoPending (world : World) (label : Label) (_next : World) : Prop :=
  ∀ query, label = .query query → query.UsesStatusToResult →
    (world query.handle).status ≠ .inProgress

/-- Every query returns, with the reply its decoder gives. -/
theorem reply_eq (world : World) (query : Query) :
    reply world query = some (query.decodedReply (world query.handle)) := by
  cases query with
  | checkFinished handle =>
      rw [reply, Query.program, Request.checkFinished_some]
      rfl
  | test handle => rfl
  | streamRecvTest handle =>
      by_cases completed : (world handle).status = .ok
      · simp [reply, Query.program, Request.streamRecvTest, environment,
          Query.decodedReply, Query.handle, completed, Program.execute]
      · simp [reply, Query.program, Request.streamRecvTest, environment,
          Query.decodedReply, Query.handle, completed, Program.execute]
  | guardStreamRecvTest worker length handle =>
      by_cases completed : (world handle).status = .ok
      · simp [reply, Query.program, StreamRequest.streamRecvTest,
          Request.streamRecvTest, environment,
          Query.decodedReply, Query.handle, completed, Program.execute]
      · simp [reply, Query.program, StreamRequest.streamRecvTest,
          Request.streamRecvTest, environment,
          Query.decodedReply, Query.handle, completed, Program.execute]
  | tagRecvTest handle => rfl

private theorem inProgress_not_isErr : UcsStatus.inProgress.isErr = false :=
  rfl

private theorem ok_not_isErr : UcsStatus.ok.isErr = false :=
  rfl

/-- On a final status every decoder gives the documented reply. -/
theorem agrees_of_final (query : Query) (record : RequestRecord)
    (final : record.status ≠ .inProgress) :
    Agrees query record (query.decodedReply record) := by
  cases isErr : record.status.isErr with
  | true =>
      have notOk : record.status ≠ .ok := by
        intro isOk
        rw [isOk, ok_not_isErr] at isErr
        cases isErr
      have decoded : query.decodedReply record = query.errorReply record.status := by
        cases query <;>
          simp [Query.decodedReply, Query.errorReply, Request.finishedOfStatus,
            statusToResult, isErr, Except.map]
        -- the match of the tag query falls through to its last arm
        unfold mapTagRecvTestStatus
        split <;> simp_all
      refine ⟨fun success => ?_, fun isOk => absurd isOk notOk,
        fun isPending => absurd isPending final, fun _ => decoded⟩
      rw [decoded] at success
      cases query <;> simp [Query.errorReply, Reply.ReportsSuccess] at success
  | false =>
      have isOk : record.status = .ok :=
        ((UcsStatus.isErr_eq_false_iff _).mp isErr).resolve_right final
      have decoded : query.decodedReply record = query.successReply record := by
        cases query <;>
          simp [Query.decodedReply, Query.successReply, Request.finishedOfStatus,
            statusToResult, isOk, ok_not_isErr, Except.map, mapTagRecvTestStatus,
            TagInfo.fromFfi]
      exact ⟨fun _ => ⟨isOk, decoded⟩, fun _ => decoded,
        fun isPending => absurd isPending final,
        fun failed => by rw [isErr] at failed; cases failed⟩

/-- On a pending request the decoders of `checkFinished` and `tagRecvTest`
give the documented reply, and `statusToResult` reports success. -/
theorem agrees_of_pending (query : Query) (record : RequestRecord)
    (isPending : record.status = .inProgress) :
    Agrees query record (query.decodedReply record) ↔
      ¬ query.UsesStatusToResult := by
  constructor
  · intro agrees usesStatusToResult
    have success : (query.decodedReply record).ReportsSuccess := by
      cases query <;>
        simp [Query.decodedReply, Reply.ReportsSuccess, statusToResult, isPending,
          inProgress_not_isErr, Except.map, Query.UsesStatusToResult]
          at usesStatusToResult ⊢
    have completed := (agrees.success success).1
    rw [isPending] at completed
    cases completed
  · intro notUsed
    have decoded : query.decodedReply record = query.pendingReply := by
      cases query <;>
        simp [Query.decodedReply, Query.pendingReply, Request.finishedOfStatus,
          isPending, inProgress_not_isErr, mapTagRecvTestStatus,
          Query.UsesStatusToResult] at notUsed ⊢
    refine ⟨fun success => ?_, fun isOk => ?_, fun _ => decoded, fun failed => ?_⟩
    · rw [decoded] at success
      cases query <;> simp [Query.pendingReply, Reply.ReportsSuccess] at success
    · rw [isPending] at isOk
      cases isOk
    · rw [isPending] at failed
      cases failed

/-- A query agrees with UCX unless it decodes a pending status with
`statusToResult`. -/
theorem agrees_iff (query : Query) (record : RequestRecord) :
    Agrees query record (query.decodedReply record) ↔
      (query.UsesStatusToResult → record.status ≠ .inProgress) := by
  by_cases isPending : record.status = .inProgress
  · rw [agrees_of_pending query record isPending]
    simp [isPending]
  · exact ⟨fun _ _ => isPending, fun _ => agrees_of_final query record isPending⟩

theorem stepAgrees_iff (world : World) (label : Label) (next : World) :
    StepAgrees world label next ↔ DecodesNoPending world label next := by
  constructor
  · intro agrees query labelEq
    obtain ⟨answer, answered, agree⟩ := agrees query labelEq
    rw [reply_eq, Option.some.injEq] at answered
    subst answered
    exact (agrees_iff query _).mp agree
  · intro decodes query labelEq
    exact ⟨_, reply_eq world query, (agrees_iff query _).mpr (decodes query labelEq)⟩

/-- Every query of a run agrees with UCX exactly when the run never calls
`Request::test` or `stream_recv_test` on a request that is still in
progress. -/
theorem queries_agree_iff (world : World) (run : List Label) :
    EveryStep step StepAgrees world run ↔
      EveryStep step DecodesNoPending world run :=
  everyStep_congr (fun _ => stepAgrees_iff _ _ _) world run

/-- The pending receive of the counterexample. -/
def pendingReceive : RequestRecord where
  status := .inProgress
  length := 0
  senderTag := 0

/-- One `stream_recv_test` on a pending receive reports a completed one. -/
theorem pending_receive_reports_completion :
    reply (fun _ => pendingReceive) (.streamRecvTest ⟨4096, by decide⟩) =
        some (.received (.ok 0)) ∧
      ¬ EveryStep step StepAgrees (fun _ => pendingReceive)
        [.query (.streamRecvTest ⟨4096, by decide⟩)] := by
  refine ⟨rfl, ?_⟩
  intro everyStep
  obtain ⟨agrees, _⟩ := everyStep (fun _ => pendingReceive) rfl
  obtain ⟨answer, answered, agree⟩ := agrees _ rfl
  have answerEq : answer = .received (.ok 0) := (Option.some.inj answered).symm
  subst answerEq
  have completed := (agree.success ⟨0, rfl⟩).1
  cases completed

end CompletionQueries

end UcxRs
