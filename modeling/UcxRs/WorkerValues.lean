import UcxRs.PostingOperations
import UcxRs.ScopedValues
import UcxRs.WorkerLifetimes

/-!
# Endpoints and requests of a worker

An `Ep` and a bare `Request` hold no borrow of their `Worker`.  An endpoint shares the
worker's liveness flag, which its drop and `Ep::destroy` consult; the methods of an
endpoint and everything that a request does, its drop included, consult nothing.

A call is read here for the worker, the endpoint and the request that it is given; remote
keys and message handles are left out.
-/

namespace UcxRs

namespace WorkerValues

open Interaction (Environment)
open Interaction.Program
open RequestHandles (namedRequest)
open ScopedHandles
open WorkerSerialisation (workerArgument)
open WorkerWorld (Storeless passedHandles)

/-- What UCX has in a worker. -/
inductive Object where
  | ep (handle : EpHandle)
  | request (handle : NonNull)
  deriving DecidableEq, Repr

/-- An endpoint or a live request.  Neither keeps its worker; the world notes it. -/
inductive Value where
  | ep (ep : Ep) (worker : WorkerHandle)
  | request (handle : NonNull) (worker : WorkerHandle)
  deriving DecidableEq, Repr

namespace Value

def object : Value → Object
  | ep endpoint _ => .ep endpoint.handle
  | request handle _ => .request handle

def worker : Value → WorkerHandle
  | ep _ worker => worker
  | request _ worker => worker

end Value

def holding : Holding Worker Value WorkerHandle Object where
  scope := Worker.handle
  object := Value.object
  owner := Value.worker

def epArgument (call : Call) : List EpHandle :=
  (passedHandles call).filterMap fun handle =>
    match handle with
    | .ep ep => some ep
    | .rkey _ => none

def arguments (call : Call) : List (Argument WorkerHandle Object) :=
  ((workerArgument call).map Argument.scope).toList ++
    ((namedRequest call).map fun request => .object (.request request)).toList ++
    (epArgument call).map fun ep => .object (.ep ep)

def ended : Call → Option (Argument WorkerHandle Object)
  | .ucpWorkerDestroy worker => some (.scope worker)
  | .ucpRequestFree request => some (.object (.request request))
  | .ucpRequestRelease request => some (.object (.request request))
  | .ucpEpCloseNbx ep _ => some (.object (.ep ep))
  | .ucpEpDestroy ep => some (.object (.ep ep))
  | _ => none

def interface : Interface Call WorkerHandle Object where
  arguments := arguments
  ended := ended

/-- The drop of a worker frees the request of its own flush, which no value holds; it is
read for the worker only. -/
def workerInterface : Interface Call WorkerHandle Object where
  arguments call := ((workerArgument call).map Argument.scope).toList
  ended call :=
    match call with
    | .ucpWorkerDestroy worker => some (.scope worker)
    | _ => none

/-- The request that a posting returned, if it did not complete at once. -/
def granted : Except Status (Option Request) → Option NonNull
  | .ok (some request) => request.handle
  | _ => none

/-- Methods of `Worker`; some return a request. -/
inductive WorkerMethod where
  | progress
  | fence
  | flush (params : RequestParam)
  | amRecvData (dataDesc : NonNull) (buffer : Buffer) (params : RequestParam)
  | tagRecvPtr (data : Buffer) (tag mask : Word) (param : RequestParam)

def WorkerMethod.program (worker : Worker) : WorkerMethod → Ffi (Option NonNull)
  | progress => worker.progress >>= fun _ => pure none
  | fence => worker.fence >>= fun _ => pure none
  | flush params => granted <$> worker.flush params
  | amRecvData dataDesc buffer params => granted <$> worker.amRecvData dataDesc buffer params
  | tagRecvPtr data tag mask param => granted <$> worker.tagRecvPtr data tag mask param

/-- Methods of `Ep` that return a request. -/
inductive EpMethod where
  | flush (params : RequestParam)
  | modify (params : ModifyParams)
  | tagSendSync (data : Buffer) (tag : Word)
  | tagSendPtr (data : Buffer) (tag : Word) (param : RequestParam)
  | amSend (id : BitVec 32) (header data : Buffer) (params : RequestParam)
  | rmaPut (buffer : Buffer) (remoteAddr : Word) (rkey : RemoteKey) (param : RequestParam)
  | rmaGet (buffer : Buffer) (remoteAddr : Word) (rkey : RemoteKey) (param : RequestParam)

def EpMethod.code (ep : Ep) : EpMethod → Ffi (Option NonNull)
  | flush params => granted <$> ep.flush params
  | modify params => granted <$> ep.modify params
  | tagSendSync data tag => (fun sent => granted (sent.map some)) <$> ep.tagSendSync data tag
  | tagSendPtr data tag param => granted <$> ep.tagSendPtr data tag param
  | amSend id header data params => granted <$> ep.amSend id header data params
  | rmaPut buffer remoteAddr rkey param => granted <$> ep.rmaPut buffer remoteAddr rkey param
  | rmaGet buffer remoteAddr rkey param => granted <$> ep.rmaGet buffer remoteAddr rkey param

def EpMethod.program (method : EpMethod) : Value → Option (Ffi (Option NonNull))
  | .ep ep _ => some (method.code ep)
  | .request _ _ => none

/-- Methods of `Request` that leave it as it is. -/
inductive RequestMethod where
  | checkFinished
  | isCompleted
  | test
  | streamRecvTest
  | tagRecvTest

def RequestMethod.code (request : Request) : RequestMethod → Ffi Unit
  | checkFinished => request.checkFinished >>= fun _ => pure ()
  | isCompleted => request.isCompleted >>= fun _ => pure ()
  | test => request.test >>= fun _ => pure ()
  | streamRecvTest => request.streamRecvTest >>= fun _ => pure ()
  | tagRecvTest => request.tagRecvTest >>= fun _ => pure ()

def RequestMethod.program (method : RequestMethod) : Value → Option (Ffi Unit)
  | .request handle _ => some (method.code ⟨some handle⟩)
  | .ep _ _ => none

/-- `Worker::cancel_request`. -/
def cancelRequestProgram (worker : Worker) : Value → Option (Ffi Unit)
  | .request handle _ => some (worker.cancelRequest ⟨some handle⟩)
  | .ep _ _ => none

/-- `Request::cancel`; the request that it leaves behind is inert. -/
def cancelProgram (worker : Worker) : Value → Option (Ffi Unit)
  | .request handle _ => some (Request.cancel ⟨some handle⟩ worker >>= fun _ => pure ())
  | .ep _ _ => none

/-- The ends of a request and of an endpoint.  `Ep::close` waits with a worker of the
caller's choice and is left out. -/
inductive Disposal where
  | drop
  | free
  | release
  | destroy

def Disposal.program : Disposal → Value → Option (Ffi Unit)
  | drop, .request handle _ => some (Request.drop ⟨some handle⟩)
  | free, .request handle _ => some (Request.free ⟨some handle⟩)
  | release, .request handle _ => some (Request.release ⟨some handle⟩)
  | drop, .ep ep _ => some ep.drop
  | destroy, .ep ep _ => some ep.destroy
  | _, _ => none

/-- Loads of a flag find what the flags hold; UCX answers from an oracle. -/
def sharing (flags : AliveFlag → Bool) (oracle : Environment Call Answer) :
    Environment Call Answer :=
  fun history call =>
    match call with
    | .loadAlive flag => some (flags flag)
    | .storeAlive _ _ => some ()
    | call => oracle history call

def store (flags : AliveFlag → Bool) : Call → AliveFlag → Bool
  | .storeAlive flag value => Function.update flags flag value
  | _ => flags

theorem store_of_storeless {flags : AliveFlag → Bool} {call : Call}
    (storeless : Storeless call) : store flags call = flags := by
  unfold store
  split
  case h_1 flag value => exact absurd rfl (storeless flag value)
  case h_2 => rfl

theorem foldl_store_of_storeless {flags : AliveFlag → Bool} {calls : List Call}
    (storeless : ∀ call ∈ calls, Storeless call) : calls.foldl store flags = flags := by
  induction calls with
  | nil => rfl
  | cons call calls ih =>
      rw [List.foldl_cons, store_of_storeless (storeless call List.mem_cons_self)]
      exact ih fun later member => storeless later (List.mem_cons_of_mem _ member)

/-- The call is given these arguments or none, ends nothing and stores nothing. -/
def Calm (given : List (Argument WorkerHandle Object)) (call : Call) : Prop :=
  interface.Quiet given call ∧ Storeless call

/-- The program starts with a call on the arguments, and is calm. -/
structure Acts {Result : Type} (given : List (Argument WorkerHandle Object))
    (program : Ffi Result) : Prop where
  starts : ∃ call resume, program = .issue call resume ∧ arguments call = given
  calm : program.EveryCall (Calm given)

section Acts

variable {Result : Type} {given : List (Argument WorkerHandle Object)} {program : Ffi Result}

theorem Acts.actsOn (acts : Acts given program) : ActsOn interface given program :=
  ⟨acts.starts, acts.calm.mono fun _ => And.left⟩

theorem acts_call {call : Call} (result : Answer call → Result)
    (named : arguments call = given) (endsNothing : ended call = none)
    (storeless : Storeless call) :
    Acts given (.issue call fun answer => .done (result answer)) :=
  ⟨⟨_, _, rfl, named⟩, ⟨⟨endsNothing, .inr named⟩, storeless⟩, fun _ => everyCall_done _ _⟩

end Acts

theorem WorkerMethod.acts (method : WorkerMethod) (worker : Worker) :
    Acts [.scope worker.handle] (method.program worker) := by
  cases method <;> exact acts_call _ rfl rfl (by rintro _ _ ⟨⟩)

theorem createEp_acts (worker : Worker) (epParams : Ep.Params) :
    Acts [.scope worker.handle] (worker.createEp epParams) :=
  acts_call _ rfl rfl (by rintro _ _ ⟨⟩)

theorem EpMethod.acts {method : EpMethod} {value : Value} {program : Ffi (Option NonNull)}
    (found : method.program value = some program) : Acts [.object value.object] program := by
  cases value with
  | request handle worker => cases found
  | ep ep worker =>
      cases found
      cases method <;> exact acts_call _ rfl rfl (by rintro _ _ ⟨⟩)

theorem RequestMethod.acts {method : RequestMethod} {value : Value} {program : Ffi Unit}
    (found : method.program value = some program) : Acts [.object value.object] program := by
  cases value with
  | ep ep worker => cases found
  | request handle worker =>
      cases found
      cases method with
      | checkFinished =>
          unfold code
          rw [Request.checkFinished_some]
          exact acts_call _ rfl rfl (by rintro _ _ ⟨⟩)
      | _ => exact acts_call _ rfl rfl (by rintro _ _ ⟨⟩)

theorem cancelRequestProgram_acts {worker : Worker} {value : Value} {program : Ffi Unit}
    (found : cancelRequestProgram worker value = some program) :
    Acts [.scope worker.handle, .object value.object] program := by
  cases value with
  | ep ep _ => cases found
  | request handle _ =>
      cases found
      exact acts_call _ rfl rfl (by rintro _ _ ⟨⟩)

/-- The last call of a value: it is given the value's object, and ends it. -/
structure EndsObject (object : Object) (call : Call) : Prop where
  named : arguments call = [.object object]
  ends : ended call = some (.object object)
  storeless : Storeless call

theorem cancelProgram_calls {worker : Worker} {value : Value} {program : Ffi Unit}
    {environment : Environment Call Answer} {history : List Call}
    (found : cancelProgram worker value = some program)
    (finished : (program.execute environment history).result = some ()) :
    ∃ first last, (program.execute environment history).calls = [first] ++ [last] ∧
      arguments first = [.scope worker.handle, .object value.object] ∧
      Calm [.scope worker.handle, .object value.object] first ∧
      EndsObject value.object last := by
  cases value with
  | ep ep _ => cases found
  | request handle _ =>
      cases found
      have code : (Request.cancel ⟨some handle⟩ worker >>= fun _ => pure ()) =
          .issue (.ucpRequestCancel worker.handle handle) fun _ =>
            .issue (.ucpRequestFree handle) fun _ => .done () := rfl
      rw [code] at finished ⊢
      cases answered : environment history (.ucpRequestCancel worker.handle handle) with
      | none =>
          rw [execute_issue_none answered] at finished
          cases finished
      | some answer =>
          rw [execute_issue_some answered, execute_issue_done]
          exact ⟨_, _, rfl, rfl, ⟨⟨rfl, .inr rfl⟩, by rintro _ _ ⟨⟩⟩, rfl, rfl,
            by rintro _ _ ⟨⟩⟩

/-- Calls of which the last one ends the object; an endpoint found its flag up. -/
structure EndedBy (flags : AliveFlag → Bool) (value : Value) (front : List Call)
    (last : Call) : Prop where
  calm : ∀ call ∈ front, Calm [.object value.object] call
  ends : EndsObject value.object last
  alive : ∀ ep worker, value = .ep ep worker → flags ep.workerAlive = true

/-- The calls of a disposal end the object, or an endpoint finds its flag lowered. -/
def Disposed (flags : AliveFlag → Bool) (value : Value) (calls : List Call) : Prop :=
  (∃ front last, calls = front ++ [last] ∧ EndedBy flags value front last) ∨
    ∃ ep worker, value = .ep ep worker ∧ calls = [.loadAlive ep.workerAlive]

section Disposals

variable {flags : AliveFlag → Bool} {oracle : Environment Call Answer}

theorem disposed_request {handle : NonNull} {worker : WorkerHandle} {call : Call}
    (ends : EndsObject (.request handle) call) (code : Answer call → Unit) :
    Disposed flags (.request handle worker)
      ((Interaction.Program.issue call fun answer => .done (code answer)).execute
        (sharing flags oracle) []).calls := by
  rw [execute_issue_done]
  exact .inl ⟨[], call, rfl, ⟨fun _ absent => (by cases absent), ends, by rintro _ _ ⟨⟩⟩⟩

/-- An endpoint loads its flag, and makes its last call if the flag is up. -/
theorem disposed_ep {ep : Ep} {worker : WorkerHandle} {call : Call}
    (ends : EndsObject (.ep ep.handle) call) (code : Answer call → Unit) :
    Disposed flags (.ep ep worker)
      ((Interaction.Program.issue (Call.loadAlive ep.workerAlive) fun alive : Bool =>
        if alive then .issue call fun answer => .done (code answer) else .done ()).execute
        (sharing flags oracle) []).calls := by
  have loaded : sharing flags oracle [] (.loadAlive ep.workerAlive) =
      some (flags ep.workerAlive) := rfl
  rw [execute_issue_some loaded]
  cases alive : flags ep.workerAlive with
  | false => exact .inr ⟨ep, worker, rfl, rfl⟩
  | true =>
      rw [if_pos rfl, execute_issue_done]
      refine .inl ⟨[_], call, rfl, ⟨fun first member => ?_, ends, fun _ _ same => ?_⟩⟩
      · obtain rfl := List.mem_singleton.mp member
        exact ⟨⟨rfl, .inl rfl⟩, by rintro _ _ ⟨⟩⟩
      · cases same
        exact alive

theorem dropEp_code (ep : Ep) :
    ep.drop = .issue (Call.loadAlive ep.workerAlive) fun alive : Bool =>
      if alive then .issue (.ucpEpCloseNbx ep.handle .zeroed) fun _ => .done ()
      else .done () := by
  refine congrArg (Interaction.Program.issue (Call.loadAlive ep.workerAlive)) (funext ?_)
  rintro (_ | _)
  · rfl
  · refine congrArg (Interaction.Program.issue (Call.ucpEpCloseNbx ep.handle .zeroed))
      (funext fun ptr : Word => ?_)
    rcases resultEq : statusPtrToResult ptr with error | _ | request <;>
      simp only [andThen, resultEq] <;> rfl

theorem Disposal.disposed {disposal : Disposal} {value : Value} {program : Ffi Unit}
    (found : disposal.program value = some program) :
    Disposed flags value (program.execute (sharing flags oracle) []).calls := by
  cases value with
  | request handle worker =>
      cases disposal with
      | destroy => cases found
      | drop =>
          cases found
          exact disposed_request ⟨rfl, rfl, by rintro _ _ ⟨⟩⟩ fun _ => ()
      | free =>
          cases found
          exact disposed_request ⟨rfl, rfl, by rintro _ _ ⟨⟩⟩ fun _ => ()
      | release =>
          cases found
          exact disposed_request ⟨rfl, rfl, by rintro _ _ ⟨⟩⟩ fun _ => ()
  | ep ep worker =>
      cases disposal with
      | free => cases found
      | release => cases found
      | drop =>
          cases found
          rw [dropEp_code]
          exact disposed_ep ⟨rfl, rfl, by rintro _ _ ⟨⟩⟩ fun _ => ()
      | destroy =>
          cases found
          have code : ep.destroy = .issue (Call.loadAlive ep.workerAlive) fun alive : Bool =>
              if alive then .issue (.ucpEpDestroy ep.handle) fun _ => .done ()
              else .done () := rfl
          rw [code]
          exact disposed_ep ⟨rfl, rfl, by rintro _ _ ⟨⟩⟩ fun _ => ()

end Disposals

/-- What the drop of a worker calls once the flag is down. -/
theorem flush_calls (worker : Worker) :
    (Interaction.Program.issue (Call.ucpWorkerFlushNbx worker.handle
      RequestParamBuilder.new.build.handle) fun flushed : Word =>
        WorkerLifetimes.afterFlush worker (statusPtrToResult flushed)).EveryCall fun call =>
      (WorkerLifetimes.Destroys worker call ∨
        workerInterface.Quiet [.scope worker.handle] call) ∧ Storeless call := by
  refine ⟨⟨.inr ⟨rfl, .inr rfl⟩, by rintro _ _ ⟨⟩⟩, fun (flushed : Word) => ?_⟩
  refine WorkerLifetimes.everyCall_afterFlush (fun handle => ?_) ?_ (fun handle => ?_) ?_ _
  · exact ⟨.inr ⟨rfl, .inl rfl⟩, by rintro _ _ ⟨⟩⟩
  · exact ⟨.inr ⟨rfl, .inr rfl⟩, by rintro _ _ ⟨⟩⟩
  · exact ⟨.inr ⟨rfl, .inl rfl⟩, by rintro _ _ ⟨⟩⟩
  · exact ⟨.inl rfl, by rintro _ _ ⟨⟩⟩

/-- The drop lowers the flag, names no other worker and ends the worker at last. -/
theorem dropWorker_calls {worker : Worker} {flags : AliveFlag → Bool}
    {oracle : Environment Call Answer}
    (finished : (worker.drop.execute (sharing flags oracle) []).result = some ()) :
    ∃ front, (worker.drop.execute (sharing flags oracle) []).calls =
        front ++ [.ucpWorkerDestroy worker.handle] ∧
      (∀ call ∈ front, workerInterface.Quiet [.scope worker.handle] call) ∧
      (worker.drop.execute (sharing flags oracle) []).calls.foldl store flags =
        Function.update flags worker.alive false := by
  obtain ⟨front, last, callsEq, rfl, before⟩ :=
    (WorkerLifetimes.closesWith_drop worker).calls_eq finished
  have stored : sharing flags oracle [] (.storeAlive worker.alive false) = some () := rfl
  have split := WorkerLifetimes.drop_eq_afterFlush worker
  have allowed : worker.drop.EveryCall fun call =>
      WorkerLifetimes.Destroys worker call ∨
        workerInterface.Quiet [.scope worker.handle] call := by
    rw [split]
    exact ⟨.inr ⟨rfl, .inl rfl⟩, fun _ => (flush_calls worker).mono fun _ => And.left⟩
  refine ⟨front, callsEq, fun call member => ?_, ?_⟩
  · have isCall : call ∈ (worker.drop.execute (sharing flags oracle) []).calls := by
      rw [callsEq]
      exact List.mem_append_left _ member
    exact (allowed.of_mem_calls isCall).resolve_left (before call member)
  · rw [split, execute_issue_some stored]
    refine List.foldl_append.trans ?_
    refine foldl_store_of_storeless fun call member => ?_
    exact ((flush_calls worker).of_mem_calls member).2

end WorkerValues

end UcxRs
