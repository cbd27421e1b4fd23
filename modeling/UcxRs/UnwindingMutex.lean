/-!
# Mutexes and unwinding

A block of code completes by returning or by panicking.  A mutex becomes
poisoned when its guard is dropped while the thread unwinds, that is, when the
block that holds the guard panics; locking a poisoned mutex reports the poison.
`catchUnwind` turns a panic into an ordinary result, so where it stands
relative to the guard decides whether a panic poisons the mutex.
-/

namespace UnwindingMutex

/-- How a block of code completes. -/
inductive Completion (Value : Type) where
  | returned (value : Value)
  | panicked
  deriving DecidableEq, Repr

namespace Completion

variable {Value : Type}

def isPanic : Completion Value → Bool
  | returned _ => false
  | panicked => true

/-- `std::panic::catch_unwind`: a panic becomes the result `none`. -/
def catchUnwind : Completion Value → Completion (Option Value)
  | returned value => returned (some value)
  | panicked => returned none

/-- `let _ = …`: the value is dropped. -/
def discard : Completion Value → Completion Unit
  | returned _ => returned ()
  | panicked => panicked

@[simp]
theorem isPanic_catchUnwind (completion : Completion Value) :
    completion.catchUnwind.isPanic = false := by
  cases completion <;> rfl

theorem discard_catchUnwind (completion : Completion Value) :
    completion.catchUnwind.discard = returned () := by
  cases completion <;> rfl

end Completion

/-- `std::sync::Mutex`. -/
structure Mutex (Value : Type) where
  value : Value
  poisoned : Bool
  deriving DecidableEq, Repr

namespace Mutex

variable {Value Result : Type}

def new (value : Value) : Mutex Value where
  value := value
  poisoned := false

/-- A poisoned mutex still gives access to its value, inside the error. -/
def lock (mutex : Mutex Value) : Except Value Value :=
  if mutex.poisoned then .error mutex.value else .ok mutex.value

/-- `lock().unwrap_or_else(|poisoned| poisoned.into_inner())`. -/
def lockIgnoringPoison (mutex : Mutex Value) : Value :=
  match mutex.lock with
  | .ok value => value
  | .error value => value

/-- Drop the guard, with the value it leaves behind. -/
def unlock (mutex : Mutex Value) (value : Value) (unwinding : Bool) : Mutex Value where
  value := value
  poisoned := mutex.poisoned || unwinding

/-- Run a block that holds the guard until it completes. -/
def hold (mutex : Mutex Value) (block : Value → Completion Result × Value) :
    Completion Result × Mutex Value :=
  let (completion, value) := block mutex.value
  (completion, mutex.unlock value completion.isPanic)

@[simp]
theorem lockIgnoringPoison_eq (mutex : Mutex Value) :
    mutex.lockIgnoringPoison = mutex.value := by
  unfold lockIgnoringPoison lock
  cases mutex.poisoned <;> rfl

theorem lock_of_not_poisoned {mutex : Mutex Value}
    (clean : mutex.poisoned = false) : mutex.lock = .ok mutex.value := by
  simp [lock, clean]

/-- A block that catches its own panics never poisons the mutex it holds. -/
theorem hold_of_caught {mutex : Mutex Value}
    {block : Value → Completion Result × Value}
    (caught : (block mutex.value).1.isPanic = false) :
    (mutex.hold block).2.poisoned = mutex.poisoned := by
  simp [hold, unlock, caught]

end Mutex

end UnwindingMutex
