import UcxRs.AtomicOperations
import UcxRs.EndpointParams
import UcxRs.RequestHandles

/-!
# The world of workers and what is created on them

Endpoints and remote keys are created on a worker and outlive it freely; a
guard borrows the worker it was given and keeps it from being dropped.  The
world holds these values together with the liveness flags that workers share
with their endpoints and keys.  A step is one operation of the safe wrapper,
run to its end with the answers that UCX gives to it; endpoints stay on their
thread, so an endpoint's operation and the drop of its worker do not overlap.
-/

namespace UcxRs

namespace WorkerWorld

open Interaction (Environment Execution)
open RequestHandles (grantedRequest isRequestPointer)

/-- The guards that wait for their request. -/
inductive Guard where
  | tag (guard : TagRequest)
  | stream (guard : StreamRequest)
  | fetch (guard : FetchAmoRequest)
  deriving DecidableEq, Repr

namespace Guard

def worker : Guard → Worker
  | tag guard => guard.worker
  | stream guard => guard.worker
  | fetch guard => guard.worker

/-- The pointer of a guard's live request. -/
def request : Guard → Option NonNull
  | tag guard => guard.handle
  | stream guard => guard.request.bind fun request => request.handle
  | fetch guard => guard.request.bind fun request => request.handle

def free : Guard → Ffi Unit
  | tag guard => (fun _ => ()) <$> guard.free
  | stream guard => guard.free
  | fetch guard => guard.free

def drop : Guard → Ffi Unit
  | tag guard => guard.drop
  | stream guard => guard.drop
  | fetch guard => guard.drop

end Guard

/-- A handle of a value that was created on a worker. -/
inductive ChildHandle where
  | ep (handle : EpHandle)
  | rkey (handle : RkeyHandle)
  deriving DecidableEq, Repr

/-- The endpoint and remote key handles that a call passes to UCX. -/
def passedHandles : Call → List ChildHandle
  | .ucpTagSendNbx ep _ _ _ => [.ep ep]
  | .ucpTagSendSyncNbx ep _ _ _ => [.ep ep]
  | .ucpStreamSendNbx ep _ _ => [.ep ep]
  | .ucpStreamRecvNbx ep _ _ => [.ep ep]
  | .ucpAmSendNbx ep _ _ _ _ => [.ep ep]
  | .ucpPutNbx ep _ _ rkey _ => [.ep ep, .rkey rkey]
  | .ucpGetNbx ep _ _ rkey _ => [.ep ep, .rkey rkey]
  | .ucpAtomicOpNbx ep _ _ _ _ rkey _ => [.ep ep, .rkey rkey]
  | .ucpEpFlushNbx ep _ => [.ep ep]
  | .ucpEpModifyNb ep _ => [.ep ep]
  | .ucpEpCloseNbx ep _ => [.ep ep]
  | .ucpEpDestroy ep => [.ep ep]
  | .ucpDisconnectNb ep => [.ep ep]
  | .ucpEpRkeyUnpack ep _ => [.ep ep]
  | .ucpRkeyCompare _ rkey1 rkey2 _ => [.rkey rkey1, .rkey rkey2]
  | .ucpRkeyDestroy rkey => [.rkey rkey]
  | _ => []

inductive Kind where
  | creation
  | posting
  | guard
  | cleanup
  | workerDrop
  deriving DecidableEq, Repr

/-- An operation on a value: its kind, the worker that the value was created
on, and the value's handle. -/
structure Operation where
  kind : Kind
  owner : Worker
  handle : Option ChildHandle
  deriving DecidableEq, Repr

/-- A call that some operation made. -/
structure Event where
  operation : Operation
  call : Call
  deriving DecidableEq, Repr

/-- What a call stores in a flag. -/
def storedIn (flag : AliveFlag) : Call → Option Bool
  | .storeAlive stored value => if stored = flag then some value else none
  | _ => none

/-- What calls, newest first, left in a flag, which starts out true. -/
def flagAfter (flag : AliveFlag) (calls : List Call) : Bool :=
  (calls.findSome? (storedIn flag)).getD true

/-- The flags hold what the earlier calls stored; UCX answers from an oracle. -/
def sharing (log : List Event) (oracle : Environment Call Answer) :
    Environment Call Answer :=
  fun history call =>
    match call with
    | .loadAlive flag => some (flagAfter flag (history.reverse ++ log.map Event.call))
    | .storeAlive _ _ => some ()
    | call => oracle history call

/-- `ucp_worker_destroy` has been called by the drop of the worker with this
flag. -/
def destroyed (flag : AliveFlag) (log : List Event) : Bool :=
  log.any fun event =>
    event.operation.kind == .workerDrop && event.operation.owner.alive == flag &&
      event.call == .ucpWorkerDestroy event.operation.owner.handle

/-- A value with the worker that it was created on. -/
structure Owned (Value : Type) where
  value : Value
  owner : Worker
  deriving DecidableEq, Repr

/-- The values that exist, and the calls that were made, newest first. -/
structure World where
  workers : List Worker
  nextAllocation : Nat
  eps : List (Owned Ep)
  rkeys : List (Owned RemoteKey)
  guards : List (Owned Guard)
  log : List Event

namespace World

def initial : World where
  workers := []
  nextAllocation := 0
  eps := []
  rkeys := []
  guards := []
  log := []

def run {Result : Type} (world : World) (oracle : Environment Call Answer)
    (program : Ffi Result) : Execution Call Result :=
  program.execute (sharing world.log oracle) []

def record (world : World) (operation : Operation) (calls : List Call) : World :=
  { world with log := (calls.map (Event.mk operation)).reverse ++ world.log }

end World

/-- The safe methods that return a guard, with the positions of the values they
are called with. -/
inductive Posting where
  | tagSend (ep worker : Nat) (data : Buffer) (tag : Word) (param : RequestParam)
  | tagRecv (receiver worker : Nat) (data : Buffer) (tag mask : Word)
      (param : RequestParam)
  | streamSend (ep worker : Nat) (data : Buffer) (param : RequestParam)
  | streamRecv (ep worker : Nat) (buf : Buffer) (param : RequestParam)
  | amoFetch (method : FetchMethod) (ep worker rkey : Nat) (remoteAddr reply : Word)
  deriving DecidableEq, Repr

/-- A posting with its arguments: the worker that the operation is posted on,
the worker that the guard is given, and the method's program. -/
structure Post where
  owner : Worker
  worker : Worker
  program : Ffi (Option Guard)

/-- A failed posting returns no guard. -/
def guardOf {Value : Type} (guard : Value → Option Guard) :
    Except Status Value → Option Guard
  | .ok value => guard value
  | .error _ => none

def Posting.resolve (world : World) : Posting → Option Post
  | .tagSend ep worker data tag param => do
      let owned ← world.eps[ep]?
      let worker ← world.workers[worker]?
      some ⟨owned.owner, worker, guardOf (Option.map Guard.tag) <$>
        owned.value.tagSend worker data tag param⟩
  | .tagRecv receiver worker data tag mask param => do
      let receiver ← world.workers[receiver]?
      let worker ← world.workers[worker]?
      some ⟨receiver, worker, guardOf (fun guard => some (.tag guard)) <$>
        receiver.tagRecv worker data tag mask param⟩
  | .streamSend ep worker data param => do
      let owned ← world.eps[ep]?
      let worker ← world.workers[worker]?
      some ⟨owned.owner, worker, guardOf (Option.map Guard.stream) <$>
        owned.value.streamSend worker data param⟩
  | .streamRecv ep worker buf param => do
      let owned ← world.eps[ep]?
      let worker ← world.workers[worker]?
      some ⟨owned.owner, worker, guardOf (fun guard => some (.stream guard)) <$>
        owned.value.streamRecv worker buf param⟩
  | .amoFetch method ep worker rkey remoteAddr reply => do
      let owned ← world.eps[ep]?
      let worker ← world.workers[worker]?
      let rkey ← world.rkeys[rkey]?
      some ⟨owned.owner, worker, guardOf (fun guard => some (.fetch guard)) <$>
        method.post owned.value worker remoteAddr rkey.value reply⟩

/-- The operations that consume an endpoint. -/
inductive Cleanup where
  | drop
  | close (worker : Nat) (flags : BitVec 32)
  | destroy
  | disconnectNb
  deriving DecidableEq, Repr

def Cleanup.resolve (world : World) (ep : Ep) : Cleanup → Option (Ffi Unit)
  | drop => some ep.drop
  | close worker flags => do
      let worker ← world.workers[worker]?
      some ((fun _ => ()) <$> ep.close worker flags)
  | destroy => some ep.destroy
  | disconnectNb => some ((fun _ => ()) <$> ep.disconnectNb)

inductive Label where
  | createWorker (handle : WorkerHandle)
  | newEp (worker : Nat) (params : Ep.Params) (oracle : Environment Call Answer)
  | createEp (worker : Nat) (params : Ep.Params) (oracle : Environment Call Answer)
  | unpack (ep : Nat) (rkeyBuffer : List (BitVec 8)) (oracle : Environment Call Answer)
  | post (posting : Posting) (oracle : Environment Call Answer)
  | freeGuard (guard : Nat) (oracle : Environment Call Answer)
  | dropGuard (guard : Nat) (oracle : Environment Call Answer)
  | cleanUp (ep : Nat) (cleanup : Cleanup) (oracle : Environment Call Answer)
  | dropRkey (rkey : Nat) (oracle : Environment Call Answer)
  | dropWorker (worker : Nat) (oracle : Environment Call Answer)

namespace World

/-- A worker with a fresh liveness flag. -/
def addWorker (world : World) (handle : WorkerHandle) : World :=
  { world with
    workers := world.workers ++ [⟨handle, ⟨world.nextAllocation⟩⟩]
    nextAllocation := world.nextAllocation + 1 }

/-- The endpoint of a creation that succeeded. -/
def addEp (world : World) (owner : Worker) : Option (Except Status Ep) → World
  | some (.ok ep) => { world with eps := world.eps ++ [⟨ep, owner⟩] }
  | _ => world

def addRkey (world : World) (owner : Worker) : Option (Except Status RemoteKey) → World
  | some (.ok rkey) => { world with rkeys := world.rkeys ++ [⟨rkey, owner⟩] }
  | _ => world

def addGuard (world : World) (owner : Worker) : Option (Option Guard) → World
  | some (some guard) => { world with guards := world.guards ++ [⟨guard, owner⟩] }
  | _ => world

/-- Create an endpoint on a worker. -/
def create (world : World) (worker : Worker) (oracle : Environment Call Answer)
    (program : Ffi (Except Status Ep)) : World :=
  let execution := world.run oracle program
  (world.record ⟨.creation, worker, none⟩ execution.calls).addEp worker execution.result

def unpack (world : World) (owned : Owned Ep) (oracle : Environment Call Answer)
    (rkeyBuffer : List (BitVec 8)) : World :=
  let execution := world.run oracle (RemoteKey.unpack owned.value rkeyBuffer)
  (world.record ⟨.creation, owned.owner, some (.ep owned.value.handle)⟩
    execution.calls).addRkey owned.owner execution.result

def post (world : World) (post : Post) (oracle : Environment Call Answer) : World :=
  let execution := world.run oracle post.program
  (world.record ⟨.posting, post.owner, none⟩ execution.calls).addGuard post.owner
    execution.result

/-- Run a program that consumes the guard at an index. -/
def disposeGuard (world : World) (index : Nat) (oracle : Environment Call Answer)
    (dispose : Guard → Ffi Unit) : Option World := do
  let posted ← world.guards[index]?
  let calls := (world.run oracle (dispose posted.value)).calls
  some ({ world with guards := world.guards.eraseIdx index }.record
    ⟨.guard, posted.owner, none⟩ calls)

/-- Some guard borrows the worker. -/
def borrows (world : World) (worker : Worker) : Bool :=
  world.guards.any fun posted => posted.value.worker == worker

end World

def step (world : World) : Label → Option World
  | .createWorker handle => some (world.addWorker handle)
  | .newEp index params oracle => do
      let worker ← world.workers[index]?
      some (world.create worker oracle (Ep.new params worker))
  | .createEp index params oracle => do
      let worker ← world.workers[index]?
      some (world.create worker oracle (worker.createEp params))
  | .unpack index rkeyBuffer oracle => do
      let owned ← world.eps[index]?
      some (world.unpack owned oracle rkeyBuffer)
  | .post posting oracle => do
      let post ← posting.resolve world
      some (world.post post oracle)
  | .freeGuard index oracle => world.disposeGuard index oracle Guard.free
  | .dropGuard index oracle => world.disposeGuard index oracle Guard.drop
  | .cleanUp index cleanup oracle => do
      let owned ← world.eps[index]?
      let program ← cleanup.resolve world owned.value
      some ({ world with eps := world.eps.eraseIdx index }.record
        ⟨.cleanup, owned.owner, some (.ep owned.value.handle)⟩ (world.run oracle program).calls)
  | .dropRkey index oracle => do
      let owned ← world.rkeys[index]?
      some ({ world with rkeys := world.rkeys.eraseIdx index }.record
        ⟨.cleanup, owned.owner, some (.rkey owned.value.handle)⟩
        (world.run oracle owned.value.drop).calls)
  | .dropWorker index oracle => do
      let worker ← world.workers[index]?
      -- a guard's borrow keeps its worker from being dropped
      if world.borrows worker then none
      else some ({ world with workers := world.workers.eraseIdx index }.record
        ⟨.workerDrop, worker, none⟩ (world.run oracle worker.drop).calls)

/-- The steps of the world, with what each of them found. -/
inductive Moves (world : World) : Label → World → Prop where
  | createWorker (handle : WorkerHandle) :
      Moves world (.createWorker handle) (world.addWorker handle)
  | newEp {index : Nat} {worker : Worker} (params : Ep.Params)
      (oracle : Environment Call Answer) (found : world.workers[index]? = some worker) :
      Moves world (.newEp index params oracle)
        (world.create worker oracle (Ep.new params worker))
  | createEp {index : Nat} {worker : Worker} (params : Ep.Params)
      (oracle : Environment Call Answer) (found : world.workers[index]? = some worker) :
      Moves world (.createEp index params oracle)
        (world.create worker oracle (worker.createEp params))
  | unpack {index : Nat} {owned : Owned Ep} (rkeyBuffer : List (BitVec 8))
      (oracle : Environment Call Answer) (found : world.eps[index]? = some owned) :
      Moves world (.unpack index rkeyBuffer oracle) (world.unpack owned oracle rkeyBuffer)
  | post {posting : Posting} {post : Post} (oracle : Environment Call Answer)
      (resolved : posting.resolve world = some post) :
      Moves world (.post posting oracle) (world.post post oracle)
  | freeGuard {index : Nat} {posted : Owned Guard} (oracle : Environment Call Answer)
      (found : world.guards[index]? = some posted) :
      Moves world (.freeGuard index oracle)
        ({ world with guards := world.guards.eraseIdx index }.record
          ⟨.guard, posted.owner, none⟩ (world.run oracle posted.value.free).calls)
  | dropGuard {index : Nat} {posted : Owned Guard} (oracle : Environment Call Answer)
      (found : world.guards[index]? = some posted) :
      Moves world (.dropGuard index oracle)
        ({ world with guards := world.guards.eraseIdx index }.record
          ⟨.guard, posted.owner, none⟩ (world.run oracle posted.value.drop).calls)
  | cleanUp {index : Nat} {cleanup : Cleanup} {owned : Owned Ep} {program : Ffi Unit}
      (oracle : Environment Call Answer) (found : world.eps[index]? = some owned)
      (resolved : cleanup.resolve world owned.value = some program) :
      Moves world (.cleanUp index cleanup oracle)
        ({ world with eps := world.eps.eraseIdx index }.record
          ⟨.cleanup, owned.owner, some (.ep owned.value.handle)⟩
          (world.run oracle program).calls)
  | dropRkey {index : Nat} {owned : Owned RemoteKey} (oracle : Environment Call Answer)
      (found : world.rkeys[index]? = some owned) :
      Moves world (.dropRkey index oracle)
        ({ world with rkeys := world.rkeys.eraseIdx index }.record
          ⟨.cleanup, owned.owner, some (.rkey owned.value.handle)⟩
          (world.run oracle owned.value.drop).calls)
  | dropWorker {index : Nat} {worker : Worker} (oracle : Environment Call Answer)
      (found : world.workers[index]? = some worker)
      (unborrowed : ¬ world.borrows worker = true) :
      Moves world (.dropWorker index oracle)
        ({ world with workers := world.workers.eraseIdx index }.record
          ⟨.workerDrop, worker, none⟩ (world.run oracle worker.drop).calls)

theorem moves_of_step {world next : World} {label : Label}
    (stepEq : step world label = some next) : Moves world label next := by
  cases label with
  | createWorker handle =>
      cases stepEq
      exact .createWorker handle
  | newEp index params oracle =>
      obtain ⟨worker, found, stepEq⟩ := Option.bind_eq_some_iff.mp stepEq
      cases stepEq
      exact .newEp params oracle found
  | createEp index params oracle =>
      obtain ⟨worker, found, stepEq⟩ := Option.bind_eq_some_iff.mp stepEq
      cases stepEq
      exact .createEp params oracle found
  | unpack index rkeyBuffer oracle =>
      obtain ⟨owned, found, stepEq⟩ := Option.bind_eq_some_iff.mp stepEq
      cases stepEq
      exact .unpack rkeyBuffer oracle found
  | post posting oracle =>
      obtain ⟨post, resolved, stepEq⟩ := Option.bind_eq_some_iff.mp stepEq
      cases stepEq
      exact .post oracle resolved
  | freeGuard index oracle =>
      obtain ⟨posted, found, stepEq⟩ := Option.bind_eq_some_iff.mp stepEq
      cases stepEq
      exact .freeGuard oracle found
  | dropGuard index oracle =>
      obtain ⟨posted, found, stepEq⟩ := Option.bind_eq_some_iff.mp stepEq
      cases stepEq
      exact .dropGuard oracle found
  | cleanUp index cleanup oracle =>
      obtain ⟨owned, found, stepEq⟩ := Option.bind_eq_some_iff.mp stepEq
      obtain ⟨program, resolved, stepEq⟩ := Option.bind_eq_some_iff.mp stepEq
      cases stepEq
      exact .cleanUp oracle found resolved
  | dropRkey index oracle =>
      obtain ⟨owned, found, stepEq⟩ := Option.bind_eq_some_iff.mp stepEq
      cases stepEq
      exact .dropRkey oracle found
  | dropWorker index oracle =>
      obtain ⟨worker, found, stepEq⟩ := Option.bind_eq_some_iff.mp stepEq
      obtain ⟨unborrowed, stepEq⟩ := Option.ite_none_left_eq_some.mp stepEq
      cases stepEq
      exact .dropWorker oracle found unborrowed

end WorkerWorld

end UcxRs
