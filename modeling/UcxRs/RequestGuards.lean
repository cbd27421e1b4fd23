import UcxRs.Request

/-!
# Guards that wait for their request

`TagRequest`, `StreamRequest` and `FetchAmoRequest` borrow a worker and a
buffer and wait for their request before they let go of them.  The stream and
fetch-atomic guards hold a `Request` and give up after a bounded loop by
forgetting it; the tag guard holds the bare pointer and aborts instead.

Forgetting a value is doing nothing with it, so it leaves no trace in a
program.
-/

namespace UcxRs

open Interaction (Program)
open Interaction.Program (forRounds)

structure TagRequest where
  worker : Worker
  handle : Option NonNull
  deriving DecidableEq, Repr

structure StreamRequest where
  request : Option Request
  worker : Worker
  length : Nat
  deriving DecidableEq, Repr

structure FetchAmoRequest where
  request : Option Request
  worker : Worker
  deriving DecidableEq, Repr

namespace TagRequest

/-- The status query goes through a copy of the handle that is never dropped
(`ManuallyDrop`); its handle is written back. -/
def checkFinished (guard : TagRequest) : Ffi (Except Status Bool × TagRequest) := do
  let request : Request := ⟨guard.handle⟩
  let result ← request.checkFinished
  pure (result, { guard with handle := request.handle })

/-- The loop of `TagRequest::complete` with `remaining` progress rounds left. -/
def completeWithin (guard : TagRequest) (remaining : Nat) :
    Ffi (Except Status Unit × TagRequest) := do
  let (result, guard) ← guard.checkFinished
  match result with
  | .ok false =>
      match remaining with
      | 0 => do
          -- the buffer must not be released while UCX still uses it
          let never ← perform .abort
          nomatch never
      | remaining + 1 => do
          let _ ← guard.worker.progress
          guard.completeWithin remaining
  | result => do
      Request.drop ⟨guard.handle⟩
      pure (result.map fun _ => (), { guard with handle := none })

def complete (guard : TagRequest) : Ffi (Except Status Unit × TagRequest) :=
  guard.completeWithin 1000000

def drop (guard : TagRequest) : Ffi Unit := do
  let _ ← guard.complete

/-- `TagRequest::free` completes the guard and then drops it. -/
def free (guard : TagRequest) : Ffi (Except Status Unit) := do
  let (result, guard) ← guard.complete
  guard.drop
  pure result

def intoInner (guard : TagRequest) : Ffi Request := do
  let request : Request := ⟨guard.handle⟩
  drop { guard with handle := none }
  pure request

end TagRequest

/-- The loop that `free` and `drop` of both guards run on a taken request: free
the request once its status is final, or forget it after the last round. -/
def progressToCompletion (request : Request) (worker : Worker) : Ffi Unit :=
  forRounds
    (do
      match ← request.checkFinished with
      | .ok true =>
          request.free
          pure (some ())
      | .error _ =>
          request.free
          pure (some ())
      | .ok false =>
          let _ ← worker.progress
          pure none)
    (pure ()) Worker.maxRounds

namespace StreamRequest

def drop (guard : StreamRequest) : Ffi Unit :=
  match guard.request with
  | some request => progressToCompletion request guard.worker
  | none => pure ()

/-- `StreamRequest::free` takes the request, runs the loop and then drops the
emptied guard. -/
def free (guard : StreamRequest) : Ffi Unit := do
  match guard.request with
  | some request => progressToCompletion request guard.worker
  | none => pure ()
  drop { guard with request := none }

def intoInner (guard : StreamRequest) : Ffi (Option Request) := do
  drop { guard with request := none }
  pure guard.request

def checkFinished (guard : StreamRequest) : Ffi (Except Status Bool) :=
  match guard.request with
  | none => pure (.ok true)
  | some request => request.checkFinished

def streamRecvTest (guard : StreamRequest) : Ffi (Except Status Nat) :=
  match guard.request with
  | none => pure (.ok guard.length)
  | some request => request.streamRecvTest

end StreamRequest

namespace FetchAmoRequest

def drop (guard : FetchAmoRequest) : Ffi Unit :=
  match guard.request with
  | some request => progressToCompletion request guard.worker
  | none => pure ()

/-- `FetchAmoRequest::free` takes the request, runs the loop and then drops the
emptied guard. -/
def free (guard : FetchAmoRequest) : Ffi Unit := do
  match guard.request with
  | some request => progressToCompletion request guard.worker
  | none => pure ()
  drop { guard with request := none }

def intoInner (guard : FetchAmoRequest) : Ffi (Option Request) := do
  drop { guard with request := none }
  pure guard.request

def checkFinished (guard : FetchAmoRequest) : Ffi (Except Status Bool) :=
  match guard.request with
  | none => pure (.ok true)
  | some request => request.checkFinished

end FetchAmoRequest

/-- `fetch_amo_result`. -/
def fetchAmoResult (request : Option Request) (worker : Worker) :
    FetchAmoRequest where
  request := request
  worker := worker

@[simp]
theorem TagRequest.complete_none (worker : Worker) :
    TagRequest.complete ⟨worker, none⟩ = .done (.ok (), ⟨worker, none⟩) := by
  unfold TagRequest.complete TagRequest.completeWithin
  rfl

@[simp]
theorem TagRequest.drop_none (worker : Worker) :
    TagRequest.drop ⟨worker, none⟩ = .done () := by
  simp [TagRequest.drop]

@[simp]
theorem TagRequest.intoInner_eq (guard : TagRequest) :
    guard.intoInner = .done ⟨guard.handle⟩ := by
  simp [TagRequest.intoInner]

@[simp]
theorem StreamRequest.intoInner_eq (guard : StreamRequest) :
    guard.intoInner = .done guard.request :=
  rfl

@[simp]
theorem FetchAmoRequest.intoInner_eq (guard : FetchAmoRequest) :
    guard.intoInner = .done guard.request :=
  rfl

-- `free` of a stream or fetch-atomic guard is its drop

theorem StreamRequest.free_eq_drop (guard : StreamRequest) : guard.free = guard.drop := by
  obtain ⟨_ | request, worker, length⟩ := guard
  · rfl
  · exact bind_pure_unit

theorem FetchAmoRequest.free_eq_drop (guard : FetchAmoRequest) :
    guard.free = guard.drop := by
  obtain ⟨_ | request, worker⟩ := guard
  · rfl
  · exact bind_pure_unit

end UcxRs
