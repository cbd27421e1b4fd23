import UcxRs.Request
import UcxRs.UnwindingMutex

/-!
# Listeners and connection requests

A `Listener` and every `ConnRequest` that its callback delivered share one
`ListenerState` through an `Arc`.  The state keeps the UCX handle, null until
`create_with_conn_handler` publishes it, and the connection callback.  This
file models the values and the functions that call UCX; the reference count is
the subject of `ListenerOwnership`.
-/

namespace UcxRs

open UnwindingMutex (Mutex)

/-- An `Arc<ListenerState>`, identified by its allocation. -/
structure ListenerRef where
  allocation : Nat
  deriving DecidableEq, Repr

/-- A boxed connection callback.  What it does when it runs is chosen by the
run. -/
structure ConnCallback where
  box : Nat
  deriving DecidableEq, Repr

structure ListenerState where
  handle : Mutex ListenerHandle
  connHandler : Option (Mutex ConnCallback)
  deriving DecidableEq, Repr

structure Listener where
  state : ListenerRef
  deriving DecidableEq, Repr

structure ConnRequest where
  handle : ConnRequestPointer
  state : ListenerRef
  deriving DecidableEq, Repr

namespace ListenerState

/-- The state that `create_with_conn_handler` allocates. -/
def unpublished (callback : ConnCallback) : ListenerState where
  handle := .new ⟨0⟩
  connHandler := some (.new callback)

/-- Store the handle that UCX returned. -/
def publish (state : ListenerState) (handle : ListenerHandle) : ListenerState :=
  { state with handle := state.handle.unlock handle false }

/-- `Drop for ListenerState`; the fields are dropped after it. -/
def drop (state : ListenerState) : Ffi ListenerState := do
  let handle := state.handle.lockIgnoringPoison
  if handle.address ≠ 0 then
    perform (.ucpListenerDestroy handle)
  match state.handle.lock with
  | .ok _ => pure { state with handle := state.handle.unlock ⟨0⟩ false }
  | .error _ => pure state

/-- `Listener::as_raw`. -/
def asRaw (state : ListenerState) : ListenerHandle :=
  state.handle.lockIgnoringPoison

/-- `Listener::reject` on a listener with this state.  `ConnRequest::reject`
is the same call with its receiver and argument exchanged. -/
def reject (state : ListenerState) (request : ConnRequest) :
    Ffi (Except Status Unit) := do
  let status ← perform (.ucpListenerReject state.asRaw request.handle)
  pure (statusToResult status)

/-- `ConnRequest::reject_owned` on a request that retains this state. -/
def rejectOwned (state : ListenerState) (request : ConnRequest) :
    Ffi (Except Status Unit) :=
  match state.handle.lock with
  | .error _ => pure (.error .errInvalidParam)
  | .ok listener =>
      if listener.address = 0 then pure (.error .errInvalidParam)
      else do
        let status ← perform (.ucpListenerReject listener request.handle)
        pure (statusToResult status)

end ListenerState

end UcxRs
