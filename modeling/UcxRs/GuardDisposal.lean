import UcxRs.RequestGuards

/-!
# How the guards dispose of their request

The stream, fetch-atomic and tag guards poll their request until its status is
final or a bound is reached.  This file computes what each of them does for
every sequence of status answers: the calls it makes, in order, and whether it
returns.  The loops are written in three ways in the source; all of them come
down to the same rounds of one check and one progress call.
-/

namespace UcxRs

namespace GuardDisposal

open Interaction (Environment Execution Program)
open Interaction.Program

def isCheck : Call → Bool
  | .ucpRequestCheckStatus _ => true
  | _ => false

def isProgress : Call → Bool
  | .ucpWorkerProgress _ => true
  | _ => false

/-- UCX answers the checks and the progress calls of a wait from two sequences;
a free returns, and the end of the process does not. -/
def waiting (checks : Nat → UcsStatus) (moved : Nat → Nat) : Environment Call Answer :=
  fun history call =>
    match call with
    | .ucpRequestCheckStatus _ => some (checks (history.countP isCheck))
    | .ucpWorkerProgress _ => some (moved (history.countP isProgress))
    | .ucpRequestFree _ => some ()
    | _ => none

/-- An environment that serves a wait: it answers every check with a status that
depends on the calls so far. -/
structure Serves (environment : Environment Call Answer) (handle : NonNull)
    (worker : Worker) (statuses : List Call → UcsStatus) : Prop where
  check : ∀ history,
    environment history (.ucpRequestCheckStatus handle) = some (statuses history)
  progress : ∀ history, ∃ moved : Nat,
    environment history (.ucpWorkerProgress worker.handle) = some moved
  free : ∀ history, environment history (.ucpRequestFree handle) = some ()

theorem serves_waiting (checks : Nat → UcsStatus) (moved : Nat → Nat) (handle : NonNull)
    (worker : Worker) :
    Serves (waiting checks moved) handle worker fun history =>
      checks (history.countP isCheck) :=
  ⟨fun _ => rfl, fun history => ⟨moved (history.countP isProgress), rfl⟩, fun _ => rfl⟩

theorem finishedOfStatus_inProgress :
    Request.finishedOfStatus .inProgress = .ok false := by
  decide

/-- A final status is success or an error. -/
theorem finishedOfStatus_of_final {status : UcsStatus} (final : status ≠ .inProgress) :
    Request.finishedOfStatus status = (statusToResult status).map fun _ => true := by
  unfold Request.finishedOfStatus statusToResult
  cases isErr : status.isErr with
  | true => rfl
  | false =>
      rcases (UcsStatus.isErr_eq_false_iff status).mp isErr with rfl | pending
      · rfl
      · exact absurd pending final

/-- The calls of a round that finds the request in progress. -/
def pendingRound (handle : NonNull) (worker : Worker) : List Call :=
  [.ucpRequestCheckStatus handle, .ucpWorkerProgress worker.handle]

@[simp]
theorem countP_rounds {handle : NonNull} {worker : Worker} (count : Nat) :
    (repeatCalls (pendingRound handle worker) count).countP isCheck = count := by
  induction count with
  | zero => rfl
  | succ count ih =>
      rw [repeatCalls_succ, List.countP_append, ih]
      exact Nat.add_comm 1 count

/-- A loop that checks the request and goes on with `settle` of what it
learned, or makes a progress call. -/
def pollRound {Result : Type} (handle : NonNull) (worker : Worker)
    (settle : Except Status Bool → Ffi (Option Result)) : Ffi (Option Result) := do
  let finished ← Request.checkFinished ⟨some handle⟩
  match finished with
  | .ok false =>
      let _ ← worker.progress
      pure none
  | finished => settle finished

/-- Free the request and return. -/
def freeing {Result : Type} (handle : NonNull) (result : Except Status Bool → Result)
    (finished : Except Status Bool) : Ffi (Option Result) := do
  Request.free ⟨some handle⟩
  pure (some (result finished))

/-- The result of a wait whose last check answered a final status. -/
def settled {Result : Type} (result : Except Status Bool → Result) (status : UcsStatus) :
    Result :=
  result ((statusToResult status).map fun _ => true)

section Wait

variable {environment : Environment Call Answer} {handle : NonNull} {worker : Worker}
  {statuses : List Call → UcsStatus} {history : List Call} {Result : Type}

theorem Serves.execute_checkFinished (serves : Serves environment handle worker statuses) :
    (Request.checkFinished ⟨some handle⟩).execute environment history =
      ⟨some (Request.finishedOfStatus (statuses history)),
        [.ucpRequestCheckStatus handle]⟩ := by
  rw [Request.checkFinished_some, execute_issue_some (serves.check history)]
  rfl

theorem Serves.execute_progress (serves : Serves environment handle worker statuses) :
    ∃ moved, (worker.progress).execute environment history =
      ⟨some moved, [.ucpWorkerProgress worker.handle]⟩ := by
  obtain ⟨moved, answered⟩ := serves.progress history
  exact ⟨decide (moved > 0), execute_issue_some answered _⟩

theorem Serves.execute_free (serves : Serves environment handle worker statuses) :
    (Request.free ⟨some handle⟩).execute environment history =
      ⟨some (), [.ucpRequestFree handle]⟩ := by
  rw [Request.free_some, execute_issue_some (serves.free history)]
  rfl

variable {settle : Except Status Bool → Ffi (Option Result)}

theorem Serves.execute_pollRound_of_pending
    (serves : Serves environment handle worker statuses)
    (pending : statuses history = .inProgress) :
    (pollRound handle worker settle).execute environment history =
      ⟨some none, pendingRound handle worker⟩ := by
  obtain ⟨moved, progressed⟩ := serves.execute_progress
  unfold pollRound
  rw [execute_bind_some serves.execute_checkFinished, pending, finishedOfStatus_inProgress,
    execute_bind_some progressed]
  rfl

theorem Serves.execute_pollRound_of_final
    (serves : Serves environment handle worker statuses)
    (final : statuses history ≠ .inProgress) :
    (pollRound handle worker settle).execute environment history =
      ((settle ((statusToResult (statuses history)).map fun _ => true)).execute
        environment (history ++ [.ucpRequestCheckStatus handle])).after
          [.ucpRequestCheckStatus handle] := by
  unfold pollRound
  rw [execute_bind_some serves.execute_checkFinished, finishedOfStatus_of_final final]
  cases statusToResult (statuses history) <;> rfl

variable {result : Except Status Bool → Result} {after : Ffi Result} {rounds count : Nat}

/-- A wait whose check after `count` pending ones is final goes on with what it
learned. -/
theorem Serves.execute_poll_of_final (serves : Serves environment handle worker statuses)
    (within : count < rounds)
    (pending : ∀ index < count,
      statuses (history ++ repeatCalls (pendingRound handle worker) index) = .inProgress)
    (final : statuses (history ++ repeatCalls (pendingRound handle worker) count) ≠
      .inProgress)
    {value : Result} {last : List Call}
    (settles : (settle ((statusToResult (statuses (history ++
        repeatCalls (pendingRound handle worker) count))).map fun _ => true)).execute
          environment (history ++ repeatCalls (pendingRound handle worker) count ++
            [.ucpRequestCheckStatus handle]) = ⟨some (some value), last⟩) :
    (forRounds (pollRound handle worker settle) after rounds).execute environment history =
      ⟨some value, repeatCalls (pendingRound handle worker) count ++
        .ucpRequestCheckStatus handle :: last⟩ := by
  refine execute_forRounds_of_returns within (fun index bound => ?_) ?_
  · exact serves.execute_pollRound_of_pending (pending index bound)
  · rw [serves.execute_pollRound_of_final final, settles]
    rfl

/-- A wait that finds the request in progress in every round. -/
theorem Serves.execute_poll_of_pending (serves : Serves environment handle worker statuses)
    (pending : ∀ index < rounds,
      statuses (history ++ repeatCalls (pendingRound handle worker) index) = .inProgress) :
    (forRounds (pollRound handle worker settle) after rounds).execute environment history =
      (after.execute environment
        (history ++ repeatCalls (pendingRound handle worker) rounds)).after
          (repeatCalls (pendingRound handle worker) rounds) := by
  refine execute_forRounds_of_exhausts fun index bound => ?_
  exact serves.execute_pollRound_of_pending (pending index bound)

/-- A wait that frees the request on its first final check. -/
theorem Serves.execute_wait_of_final (serves : Serves environment handle worker statuses)
    (within : count < rounds)
    (pending : ∀ index < count,
      statuses (repeatCalls (pendingRound handle worker) index) = .inProgress)
    (final : statuses (repeatCalls (pendingRound handle worker) count) ≠ .inProgress) :
    (forRounds (pollRound handle worker (freeing handle result)) after rounds).execute
        environment [] =
      ⟨some (settled result (statuses (repeatCalls (pendingRound handle worker) count))),
        repeatCalls (pendingRound handle worker) count ++
          [.ucpRequestCheckStatus handle, .ucpRequestFree handle]⟩ := by
  refine serves.execute_poll_of_final within pending final ?_
  unfold freeing
  rw [execute_bind_some serves.execute_free]
  rfl

theorem Serves.execute_wait_of_pending (serves : Serves environment handle worker statuses)
    (pending : ∀ index < rounds,
      statuses (repeatCalls (pendingRound handle worker) index) = .inProgress) :
    (forRounds (pollRound handle worker (freeing handle result)) after rounds).execute
        environment [] =
      (after.execute environment (repeatCalls (pendingRound handle worker) rounds)).after
        (repeatCalls (pendingRound handle worker) rounds) :=
  serves.execute_poll_of_pending pending

end Wait

theorem progressToCompletion_eq_wait (handle : NonNull) (worker : Worker) :
    progressToCompletion ⟨some handle⟩ worker =
      forRounds (pollRound handle worker (freeing handle fun _ => ())) (pure ())
        Worker.maxRounds := by
  unfold progressToCompletion pollRound
  congr 1
  refine congrArg _ (funext fun finished => ?_)
  rcases finished with error | _ | _ <;> rfl

/-- The result of the tag guard's wait, with the emptied guard. -/
def tagResult (worker : Worker) (finished : Except Status Bool) :
    Except Status Unit × TagRequest :=
  (finished.map fun _ => (), ⟨worker, none⟩)

/-- The last check of the tag guard, after which the process ends. -/
def lastCheck (handle : NonNull) (worker : Worker) : Ffi (Except Status Unit × TagRequest) :=
  TagRequest.completeWithin ⟨worker, some handle⟩ 0

theorem completeWithin_eq_wait (handle : NonNull) (worker : Worker) (remaining : Nat) :
    TagRequest.completeWithin ⟨worker, some handle⟩ remaining =
      forRounds (pollRound handle worker (freeing handle (tagResult worker)))
        (lastCheck handle worker) remaining := by
  induction remaining with
  | zero => rfl
  | succ remaining ih =>
      rw [forRounds, ← ih]
      conv_lhs => unfold TagRequest.completeWithin TagRequest.checkFinished
      unfold pollRound
      rw [bind_assoc, bind_assoc]
      refine congrArg _ (funext fun finished => ?_)
      rcases finished with error | _ | _ <;> rfl

/-- Among the first `limit` checks there is a first final one, or all of them
answer in progress. -/
theorem first_final_or_pending (checks : Nat → UcsStatus) (limit : Nat) :
    (∃ count < limit, (∀ index < count, checks index = .inProgress) ∧
        checks count ≠ .inProgress) ∨
      ∀ index < limit, checks index = .inProgress := by
  induction limit with
  | zero => exact Or.inr fun index within => absurd within (Nat.not_lt_zero index)
  | succ limit ih =>
      rcases ih with ⟨count, within, pending, final⟩ | pending
      · exact Or.inl ⟨count, by omega, pending, final⟩
      · by_cases last : checks limit = .inProgress
        · refine Or.inr fun index within => ?_
          rcases Nat.lt_succ_iff_lt_or_eq.mp within with before | rfl
          · exact pending index before
          · exact last
        · exact Or.inl ⟨limit, by omega, pending, last⟩

/-- A wait of at most `limit` checks: the first final check is followed by one
free, and by nothing else; if every check answers in progress, the calls are
those at the limit. -/
structure Disposes {Result : Type} (handle : NonNull) (worker : Worker) (limit : Nat)
    (checks : Nat → UcsStatus) (result : UcsStatus → Result)
    (atLimit execution : Execution Call Result) : Prop where
  final : ∀ count < limit, (∀ index < count, checks index = .inProgress) →
    checks count ≠ .inProgress →
    execution = ⟨some (result (checks count)),
      repeatCalls (pendingRound handle worker) count ++
        [.ucpRequestCheckStatus handle, .ucpRequestFree handle]⟩
  pending : (∀ index < limit, checks index = .inProgress) → execution = atLimit

section Environments

variable {environment : Environment Call Answer} {handle : NonNull} {worker : Worker}
  {statuses : List Call → UcsStatus}

/-- The answer to each check of a wait. -/
def checkAnswers (handle : NonNull) (worker : Worker) (statuses : List Call → UcsStatus)
    (count : Nat) : UcsStatus :=
  statuses (repeatCalls (pendingRound handle worker) count)

/-- A loop that forgets the request at its bound. -/
theorem Serves.disposes_progressToCompletion
    (serves : Serves environment handle worker statuses) :
    Disposes handle worker 1000000 (checkAnswers handle worker statuses) (fun _ => ())
      ⟨some (), repeatCalls (pendingRound handle worker) 1000000⟩
      ((progressToCompletion ⟨some handle⟩ worker).execute environment []) := by
  rw [progressToCompletion_eq_wait]
  constructor
  · intro count within pending final
    exact serves.execute_wait_of_final within pending final
  · intro pending
    rw [Worker.maxRounds, serves.execute_wait_of_pending pending]
    simp [Execution.after]

/-- The last check of the tag guard frees the request on a final status. -/
theorem Serves.execute_lastCheck_of_final (serves : Serves environment handle worker statuses)
    {history : List Call} (final : statuses history ≠ .inProgress) :
    (lastCheck handle worker).execute environment history =
      ⟨some (settled (tagResult worker) (statuses history)),
        [.ucpRequestCheckStatus handle, .ucpRequestFree handle]⟩ := by
  have drops : ∀ finished : Except Status Bool,
      (Request.drop ⟨some handle⟩ >>= fun _ =>
        (pure (tagResult worker finished) : Ffi (Except Status Unit × TagRequest))).execute
          environment (history ++ [.ucpRequestCheckStatus handle]) =
        ⟨some (tagResult worker finished), [.ucpRequestFree handle]⟩ := by
    intro finished
    exact execute_bind_some serves.execute_free _
  unfold lastCheck TagRequest.completeWithin TagRequest.checkFinished settled
  rw [bind_assoc, execute_bind_some serves.execute_checkFinished,
    finishedOfStatus_of_final final]
  cases statusToResult (statuses history) with
  | error error => exact congrArg (Execution.after _) (drops (.error error))
  | ok success => exact congrArg (Execution.after _) (drops (.ok true))

/-- The process ends when the last check finds the request in progress. -/
theorem Serves.execute_lastCheck_of_pending
    (serves : Serves environment handle worker statuses) {history : List Call}
    (pending : statuses history = .inProgress) :
    (lastCheck handle worker).execute environment history =
      ⟨none, [.ucpRequestCheckStatus handle, .abort]⟩ := by
  have aborts : environment (history ++ [.ucpRequestCheckStatus handle]) .abort = none := by
    cases environment (history ++ [.ucpRequestCheckStatus handle]) .abort with
    | none => rfl
    | some never => cases never
  unfold lastCheck TagRequest.completeWithin TagRequest.checkFinished
  rw [bind_assoc, execute_bind_some serves.execute_checkFinished, pending,
    finishedOfStatus_inProgress]
  exact congrArg (Execution.after _) (execute_issue_none aborts _)

/-- What the tag guard does to a wait before it drops itself. -/
theorem Serves.disposes_complete (serves : Serves environment handle worker statuses) :
    Disposes handle worker 1000001 (checkAnswers handle worker statuses)
      (settled (tagResult worker))
      ⟨none, repeatCalls (pendingRound handle worker) 1000000 ++
        [.ucpRequestCheckStatus handle, .abort]⟩
      ((TagRequest.complete ⟨worker, some handle⟩).execute environment []) := by
  unfold TagRequest.complete
  rw [completeWithin_eq_wait]
  constructor
  · intro count within pending final
    by_cases early : count < 1000000
    · exact serves.execute_wait_of_final early pending final
    · -- the check after the last progress call
      obtain rfl : count = 1000000 := by omega
      rw [serves.execute_wait_of_pending pending, serves.execute_lastCheck_of_final final]
      rfl
  · intro pending
    rw [serves.execute_wait_of_pending fun index bound => pending index (by omega),
      serves.execute_lastCheck_of_pending (pending 1000000 (by omega))]
    rfl

end Environments

variable {environment : Environment Call Answer} {checks : Nat → UcsStatus} {handle : NonNull}
  {worker : Worker} {Result Value : Type} {limit : Nat}
  {result : UcsStatus → Result}

/-- What follows a wait without making a call changes its result only. -/
theorem Disposes.andThen {program : Ffi Result} {callsAtLimit : List Call}
    (disposes : Disposes handle worker limit checks result ⟨none, callsAtLimit⟩
      (program.execute environment []))
    {next : Result → Ffi Value} {value : UcsStatus → Value}
    (returns : ∀ status, next (result status) = .done (value status)) :
    Disposes handle worker limit checks value ⟨none, callsAtLimit⟩
      ((program >>= next).execute environment []) := by
  constructor
  · intro count within pending final
    rw [execute_bind_some (disposes.final count within pending final), returns, execute_done]
    simp [Execution.after]
  · intro pending
    exact execute_bind_none (disposes.pending pending) next

/-- Every free of the request comes after a check that answered a final
status. -/
def FreesOnlyFinal (checks : Nat → UcsStatus) (handle : NonNull) (calls : List Call) : Prop :=
  ∀ earlier later, calls = earlier ++ .ucpRequestFree handle :: later →
    ∃ last, earlier.countP isCheck = last + 1 ∧ checks last ≠ .inProgress

theorem free_not_mem_rounds (count : Nat) :
    Call.ucpRequestFree handle ∉ repeatCalls (pendingRound handle worker) count := by
  induction count with
  | zero => exact List.not_mem_nil
  | succ count ih =>
      rw [repeatCalls_succ, List.mem_append]
      rintro (now | later)
      · simp [pendingRound] at now
      · exact ih later

theorem free_not_mem_aborted (count : Nat) :
    Call.ucpRequestFree handle ∉ repeatCalls (pendingRound handle worker) count ++
      [.ucpRequestCheckStatus handle, .abort] := by
  rw [List.mem_append]
  rintro (inRounds | inLast)
  · exact free_not_mem_rounds _ inRounds
  · simp at inLast

theorem Disposes.freesOnlyFinal {atLimit execution : Execution Call Result}
    (disposes : Disposes handle worker limit checks result atLimit execution)
    (kept : Call.ucpRequestFree handle ∉ atLimit.calls) :
    FreesOnlyFinal checks handle execution.calls := by
  intro earlier later split
  rcases first_final_or_pending checks limit with ⟨count, within, pending, final⟩ | pending
  · rw [disposes.final count within pending final] at split
    have calls : repeatCalls (pendingRound handle worker) count ++
        [.ucpRequestCheckStatus handle] ++ .ucpRequestFree handle :: [] =
          earlier ++ .ucpRequestFree handle :: later := by
      rw [List.append_assoc]
      exact split
    have notBefore : Call.ucpRequestFree handle ∉
        repeatCalls (pendingRound handle worker) count ++
          [.ucpRequestCheckStatus handle] := by
      rw [List.mem_append]
      rintro (inRounds | inCheck)
      · exact free_not_mem_rounds _ inRounds
      · simp at inCheck
    obtain ⟨rfl, _, _⟩ :=
      (List.append_cons_inj_of_notMem notBefore List.not_mem_nil).mp calls
    refine ⟨count, ?_, final⟩
    rw [List.countP_append, countP_rounds]
    rfl
  · rw [disposes.pending pending] at split
    exact absurd (split ▸ List.mem_append_right _ (List.mem_cons_self ..)) kept

section Methods

variable {statuses : List Call → UcsStatus}
  (serves : Serves environment handle worker statuses)

include serves

theorem Serves.disposes_tagFree :
    Disposes handle worker 1000001 (checkAnswers handle worker statuses) statusToResult
      ⟨none, repeatCalls (pendingRound handle worker) 1000000 ++
        [.ucpRequestCheckStatus handle, .abort]⟩
      ((TagRequest.free ⟨worker, some handle⟩).execute environment []) := by
  refine serves.disposes_complete.andThen fun status => ?_
  unfold settled tagResult
  simp only [TagRequest.drop_none, done_bind]
  cases statusToResult status <;> rfl

theorem Serves.disposes_tagDrop :
    Disposes handle worker 1000001 (checkAnswers handle worker statuses) (fun _ => ())
      ⟨none, repeatCalls (pendingRound handle worker) 1000000 ++
        [.ucpRequestCheckStatus handle, .abort]⟩
      ((TagRequest.drop ⟨worker, some handle⟩).execute environment []) :=
  serves.disposes_complete.andThen fun _ => rfl

end Methods

/-- `free` and the drop of a guard dispose of a live request in the same way:
they wait for the first final check and then free the request once, or give up
at the bound without freeing it.  The stream and fetch-atomic guards return at
the bound, the tag guard ends the process there, and its `free` returns the
final status. -/
theorem guards_dispose (checks : Nat → UcsStatus) (moved : Nat → Nat) (handle : NonNull)
    (worker : Worker) (length : Nat) :
    let run := fun {Result : Type} (program : Ffi Result) =>
      program.execute (waiting checks moved) []
    let forgotten := repeatCalls (pendingRound handle worker) 1000000
    let aborted := forgotten ++ [.ucpRequestCheckStatus handle, .abort]
    let stream : StreamRequest := ⟨some ⟨some handle⟩, worker, length⟩
    let fetch : FetchAmoRequest := ⟨some ⟨some handle⟩, worker⟩
    let tag : TagRequest := ⟨worker, some handle⟩
    (∀ execution ∈ [run stream.free, run stream.drop, run fetch.free, run fetch.drop],
      Disposes handle worker 1000000 checks (fun _ => ()) ⟨some (), forgotten⟩ execution ∧
        FreesOnlyFinal checks handle execution.calls) ∧
    (Disposes handle worker 1000001 checks statusToResult ⟨none, aborted⟩ (run tag.free) ∧
      FreesOnlyFinal checks handle (run tag.free).calls) ∧
    (Disposes handle worker 1000001 checks (fun _ => ()) ⟨none, aborted⟩ (run tag.drop) ∧
      FreesOnlyFinal checks handle (run tag.drop).calls) := by
  intro run forgotten aborted stream fetch tag
  have serves := serves_waiting checks moved handle worker
  have answers : checkAnswers handle worker (fun history => checks (history.countP isCheck)) =
      checks := by
    funext count
    exact congrArg checks (countP_rounds count)
  have loop := serves.disposes_progressToCompletion
  have tagFree := serves.disposes_tagFree
  have tagDrop := serves.disposes_tagDrop
  rw [answers] at loop tagFree tagDrop
  have notAborted : Call.ucpRequestFree handle ∉ aborted := free_not_mem_aborted _
  refine ⟨?_, ⟨tagFree, tagFree.freesOnlyFinal notAborted⟩,
    ⟨tagDrop, tagDrop.freesOnlyFinal notAborted⟩⟩
  have loopDisposes := And.intro loop (loop.freesOnlyFinal (free_not_mem_rounds _))
  intro execution member
  have same : execution = run (progressToCompletion ⟨some handle⟩ worker) := by
    simp only [run, stream, fetch, StreamRequest.free_eq_drop,
      FetchAmoRequest.free_eq_drop, StreamRequest.drop, FetchAmoRequest.drop,
      List.mem_cons, List.not_mem_nil, or_false, or_self] at member
    exact member
  rw [same]
  exact loopDisposes

end GuardDisposal

end UcxRs
