import UcxRs.UcsStatus
import UcxRs.UnwindingMutex

/-!
# The active-message callback

`am_trampoline` is what UCX calls for a message.  It turns the pointers of the
delivery into slices, takes the mutex of the handler and runs the user's
closure under `catch_unwind`.
-/

namespace UcxRs

open UnwindingMutex (Completion Mutex)

abbrev Byte := BitVec 8

/-- A pointer and a length that UCX hands to a callback.  A non-null pointer
has that many readable bytes behind it. -/
inductive RawBytes where
  | null (length : Nat)
  | readable (address : NonNull) (bytes : List Byte)
  deriving DecidableEq, Repr

/-- The slice of a delivery, if its pointer passes the null check. -/
def RawBytes.toSlice : RawBytes → Option (List Byte)
  | null length => if length = 0 then some [] else none
  | readable _ bytes => some bytes

/-- A registered closure: from the two slices and what it captured, how it
completes and what it has captured then. -/
abbrev AmCallback (Captured : Type) :=
  List Byte → List Byte → Captured → Completion (Except Status Unit) × Captured

structure AmHandler (Captured : Type) where
  inner : Mutex Captured

/-- The state that `am_register_handler` allocates. -/
def AmHandler.new {Captured : Type} (captured : Captured) : AmHandler Captured where
  inner := .new captured

/-- One run of the closure. -/
structure AmInvocation where
  header : List Byte
  data : List Byte
  outcome : Completion (Except Status Unit)

/-- How the trampoline completed, the handler it left behind, and the closure
run it made, if any. -/
structure AmDelivery (Captured : Type) where
  completion : Completion Status
  handler : AmHandler Captured
  invocation : Option AmInvocation

/-- The status reported for what `catch_unwind` returned. -/
def amReportedStatus : Option (Except Status Unit) → Status
  | some (.ok ()) => .ok
  | some (.error status) => if status.isErr then status else .errInvalidParam
  | none => .errIoError

section Trampoline

variable {Captured : Type} (callback : AmCallback Captured)

/-- The end of `am_trampoline`, which holds the guard: the closure runs inside
`catch_unwind`, the status is computed, and the guard is dropped last. -/
def amRunGuarded (header data : List Byte) (captured : Captured) :
    Completion Status × Captured :=
  let (outcome, captured) := callback header data captured
  match outcome.catchUnwind with
  | .returned caught => (.returned (amReportedStatus caught), captured)
  | .panicked => (.panicked, captured)

def amTrampoline (handler : AmHandler Captured) (header data : RawBytes) :
    AmDelivery Captured :=
  match header.toSlice with
  | none => ⟨.returned .errInvalidParam, handler, none⟩
  | some header =>
      match data.toSlice with
      | none => ⟨.returned .errInvalidParam, handler, none⟩
      | some data =>
          match handler.inner.lock with
          -- a poisoned handler is not run again
          | .error _ => ⟨.returned .errIoError, handler, none⟩
          | .ok captured =>
              let (completion, inner) :=
                handler.inner.hold (amRunGuarded callback header data)
              ⟨completion, ⟨inner⟩,
                some ⟨header, data, (callback header data captured).1⟩⟩

theorem isPanic_amRunGuarded (header data : List Byte) (captured : Captured) :
    (amRunGuarded callback header data captured).1.isPanic = false := by
  unfold amRunGuarded
  rcases callback header data captured with ⟨outcome, captured⟩
  cases outcome <;> rfl

/-- No panic leaves the trampoline. -/
theorem isPanic_amTrampoline (handler : AmHandler Captured) (header data : RawBytes) :
    (amTrampoline callback handler header data).completion.isPanic = false := by
  unfold amTrampoline
  split
  · rfl
  · split
    · rfl
    · split
      · rfl
      · exact isPanic_amRunGuarded callback _ _ _

/-- The closure catches its panics inside the scope of the guard, so the mutex
is never poisoned. -/
theorem not_poisoned_amTrampoline {handler : AmHandler Captured}
    (clean : handler.inner.poisoned = false) (header data : RawBytes) :
    (amTrampoline callback handler header data).handler.inner.poisoned = false := by
  unfold amTrampoline
  split
  · exact clean
  · split
    · exact clean
    · split
      · exact clean
      · rw [← clean]
        exact Mutex.hold_of_caught (isPanic_amRunGuarded callback _ _ _)

/-- A delivery with readable slices runs the closure of a clean handler. -/
theorem invocation_of_slices {handler : AmHandler Captured} {header data : RawBytes}
    {headerBytes dataBytes : List Byte} (clean : handler.inner.poisoned = false)
    (headerEq : header.toSlice = some headerBytes)
    (dataEq : data.toSlice = some dataBytes) :
    (amTrampoline callback handler header data).invocation =
      some ⟨headerBytes, dataBytes,
        (callback headerBytes dataBytes handler.inner.value).1⟩ := by
  unfold amTrampoline
  simp only [headerEq, dataEq, Mutex.lock_of_not_poisoned clean]

end Trampoline

end UcxRs
