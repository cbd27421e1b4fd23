import UcxRs.HandlerQuarantine

/-!
# The status that a delivery reports

UCX calls `am_trampoline` with two pointers and their lengths, and takes the
returned status as the fate of the data: a status that is neither `UCS_OK` nor
an error would leave the data with the handler.  For any sequence of deliveries,
each with its own behaviour of the closure, this file says which bytes the
closure sees and which status comes back.
-/

namespace UcxRs

namespace DeliveryStatuses

open HandlerQuarantine (AmMessage)
open TransitionRuns
open UnwindingMutex (Completion Mutex)

/-- What UCX supplies with a pointer and a length; nothing with a null pointer
and a nonzero length. -/
inductive Supplies : RawBytes → List Byte → Prop where
  | empty : Supplies (.null 0) []
  | readable (address : NonNull) (bytes : List Byte) :
      Supplies (.readable address bytes) bytes

/-- A null pointer that claims to have bytes behind it. -/
def MissingBytes (bytes : RawBytes) : Prop :=
  ∃ length, length ≠ 0 ∧ bytes = .null length

theorem toSlice_eq_some_iff (raw : RawBytes) (bytes : List Byte) :
    raw.toSlice = some bytes ↔ Supplies raw bytes := by
  constructor
  · intro slice
    cases raw with
    | null length =>
        obtain ⟨rfl, empty⟩ := Option.ite_none_right_eq_some.mp slice
        obtain rfl := Option.some.inj empty
        exact Supplies.empty
    | readable address content =>
        obtain rfl := Option.some.inj slice
        exact Supplies.readable address content
  · rintro (_ | ⟨address, bytes⟩) <;> rfl

theorem toSlice_eq_none_iff (raw : RawBytes) : raw.toSlice = none ↔ MissingBytes raw := by
  unfold MissingBytes
  cases raw with
  | null length => simp [RawBytes.toSlice]
  | readable address bytes => simp [RawBytes.toSlice]

/-- A message, and what the closure does with it. -/
structure Delivery (Captured : Type) where
  message : AmMessage
  callback : AmCallback Captured

variable {Captured : Type}

/-- What the trampoline makes of a delivery. -/
def Delivery.run (delivery : Delivery Captured) (handler : AmHandler Captured) :
    AmDelivery Captured :=
  amTrampoline delivery.callback handler delivery.message.header delivery.message.data

def step (handler : AmHandler Captured) (delivery : Delivery Captured) :
    Option (AmHandler Captured) :=
  some (delivery.run handler).handler

/-- A delivery that runs the closure at most once, on the bytes of the message,
and reports what the closure made of them. -/
structure ReportsSoundly (handler : AmHandler Captured) (delivery : Delivery Captured)
    (status : Status) : Prop where
  returned : (delivery.run handler).completion = .returned status
  bytes : ∀ invocation, (delivery.run handler).invocation = some invocation →
    Supplies delivery.message.header invocation.header ∧
      Supplies delivery.message.data invocation.data ∧
      delivery.callback invocation.header invocation.data handler.inner.value =
        (invocation.outcome, (delivery.run handler).handler.inner.value)
  untouched : (delivery.run handler).invocation = none →
    (delivery.run handler).handler.inner.value = handler.inner.value
  invoked_iff : (delivery.run handler).invocation.isSome ↔
    ¬ (MissingBytes delivery.message.header ∨ MissingBytes delivery.message.data)
  missing : (delivery.run handler).invocation = none → status = .errInvalidParam
  ok_iff : status = .ok ↔ ∃ invocation,
    (delivery.run handler).invocation = some invocation ∧
      invocation.outcome = .returned (.ok ())
  error : ∀ invocation error, (delivery.run handler).invocation = some invocation →
    invocation.outcome = .returned (.error error) → error.isErr = true → status = error
  nonError : ∀ invocation error, (delivery.run handler).invocation = some invocation →
    invocation.outcome = .returned (.error error) → error.isErr = false →
      status = .errInvalidParam
  panic : ∀ invocation, (delivery.run handler).invocation = some invocation →
    invocation.outcome = .panicked → status = .errIoError
  notInProgress : status ≠ .inProgress

/-- The trampoline on a message without its bytes. -/
theorem run_of_missing {handler : AmHandler Captured} {delivery : Delivery Captured}
    (missing : MissingBytes delivery.message.header ∨ MissingBytes delivery.message.data) :
    delivery.run handler = ⟨.returned .errInvalidParam, handler, none⟩ := by
  unfold Delivery.run amTrampoline
  rcases missing with missing | missing
  · rw [(toSlice_eq_none_iff _).mpr missing]
  · rw [(toSlice_eq_none_iff _).mpr missing]
    cases delivery.message.header.toSlice <;> rfl

/-- The trampoline of a clean handler on a message with its bytes. -/
theorem run_of_supplied {handler : AmHandler Captured} {delivery : Delivery Captured}
    (clean : handler.inner.poisoned = false) {header data : List Byte}
    (headerBytes : Supplies delivery.message.header header)
    (dataBytes : Supplies delivery.message.data data) {outcome : Completion (Except Status Unit)}
    {after : Captured}
    (ran : delivery.callback header data handler.inner.value = (outcome, after)) :
    ∃ caught, outcome.catchUnwind = .returned caught ∧
      delivery.run handler = ⟨.returned (amReportedStatus caught),
        ⟨handler.inner.unlock after false⟩, some ⟨header, data, outcome⟩⟩ := by
  unfold Delivery.run amTrampoline
  simp only [(toSlice_eq_some_iff _ _).mpr headerBytes, (toSlice_eq_some_iff _ _).mpr dataBytes,
    Mutex.lock_of_not_poisoned clean, Mutex.hold, amRunGuarded, ran]
  cases outcome with
  | returned result => exact ⟨some result, rfl, rfl⟩
  | panicked => exact ⟨none, rfl, rfl⟩

/-- Bytes are supplied unless they are missing. -/
theorem supplied_of_not_missing {raw : RawBytes} (present : ¬ MissingBytes raw) :
    ∃ bytes, Supplies raw bytes := by
  rw [← toSlice_eq_none_iff, ← ne_eq, Option.ne_none_iff_exists'] at present
  obtain ⟨bytes, slice⟩ := present
  exact ⟨bytes, (toSlice_eq_some_iff raw bytes).mp slice⟩

/-- A failure is reported as an error. -/
theorem isErr_amReportedStatus {caught : Option (Except Status Unit)}
    (failed : caught ≠ some (.ok ())) : (amReportedStatus caught).isErr = true := by
  rcases caught with _ | error | success
  · rfl
  · change (if error.isErr then error else UcsStatus.errInvalidParam).isErr = true
    by_cases isErr : error.isErr = true
    · rw [if_pos isErr, isErr]
    · rw [if_neg isErr]
      rfl
  · exact absurd rfl failed

/-- What is reported for a caught result never keeps the data. -/
theorem amReportedStatus_ne_inProgress (caught : Option (Except Status Unit)) :
    amReportedStatus caught ≠ .inProgress := by
  intro kept
  by_cases succeeded : caught = some (.ok ())
  · rw [succeeded] at kept
    cases kept
  · have isErr := isErr_amReportedStatus succeeded
    rw [kept] at isErr
    exact absurd isErr (by decide)

theorem amReportedStatus_eq_ok_iff (caught : Option (Except Status Unit)) :
    amReportedStatus caught = .ok ↔ caught = some (.ok ()) := by
  constructor
  · intro reported
    by_contra failed
    have isErr := isErr_amReportedStatus failed
    rw [reported] at isErr
    exact absurd isErr (by decide)
  · rintro rfl
    rfl

/-- A message without its bytes is rejected, and the closure does not run. -/
theorem reportsSoundly_of_missing {handler : AmHandler Captured}
    {delivery : Delivery Captured}
    (missing : MissingBytes delivery.message.header ∨ MissingBytes delivery.message.data) :
    ReportsSoundly handler delivery .errInvalidParam := by
  have ran := @run_of_missing _ handler delivery missing
  have silent : ∀ invocation, (delivery.run handler).invocation ≠ some invocation := by
    rw [ran]
    exact fun invocation => nofun
  constructor
  case returned => rw [ran]
  case bytes => exact fun invocation ran => absurd ran (silent invocation)
  case untouched => rw [ran]; exact fun _ => rfl
  case invoked_iff =>
    rw [ran]
    exact iff_of_false Bool.false_ne_true (not_not_intro missing)
  case missing => exact fun _ => rfl
  case ok_iff =>
    exact iff_of_false (by decide) fun invoked => silent _ invoked.choose_spec.1
  case error => exact fun invocation error ran => absurd ran (silent invocation)
  case nonError => exact fun _ _ _ _ _ => rfl
  case panic => exact fun invocation ran => absurd ran (silent invocation)
  case notInProgress => decide

/-- A message with its bytes runs the closure of a clean handler once. -/
theorem reportsSoundly_of_supplied {handler : AmHandler Captured}
    {delivery : Delivery Captured} (clean : handler.inner.poisoned = false)
    {header data : List Byte} (headerBytes : Supplies delivery.message.header header)
    (dataBytes : Supplies delivery.message.data data) :
    ∃ status, ReportsSoundly handler delivery status := by
  obtain ⟨⟨outcome, after⟩, called⟩ :
      ∃ result, delivery.callback header data handler.inner.value = result := ⟨_, rfl⟩
  obtain ⟨caught, caughtEq, ran⟩ := run_of_supplied clean headerBytes dataBytes called
  have invoked : ∀ invocation, (delivery.run handler).invocation = some invocation →
      invocation = ⟨header, data, outcome⟩ := by
    intro invocation found
    rw [ran] at found
    exact (Option.some.inj found).symm
  have caughtResult : ∀ invocation result, (delivery.run handler).invocation = some invocation →
      invocation.outcome = .returned result → caught = some result := by
    intro invocation result found returned
    obtain rfl := invoked invocation found
    rw [show outcome = .returned result from returned] at caughtEq
    cases caughtEq
    rfl
  have caughtPanic : ∀ invocation, (delivery.run handler).invocation = some invocation →
      invocation.outcome = .panicked → caught = none := by
    intro invocation found panicked
    obtain rfl := invoked invocation found
    rw [show outcome = .panicked from panicked] at caughtEq
    cases caughtEq
    rfl
  have present : ¬ (MissingBytes delivery.message.header ∨
      MissingBytes delivery.message.data) := by
    rintro (missing | missing)
    · rw [← toSlice_eq_none_iff, (toSlice_eq_some_iff _ _).mpr headerBytes] at missing
      cases missing
    · rw [← toSlice_eq_none_iff, (toSlice_eq_some_iff _ _).mpr dataBytes] at missing
      cases missing
  refine ⟨amReportedStatus caught, ?_⟩
  constructor
  case returned => rw [ran]
  case bytes =>
    intro invocation found
    obtain rfl := invoked invocation found
    rw [ran]
    exact ⟨headerBytes, dataBytes, called⟩
  case untouched =>
    rw [ran]
    exact nofun
  case invoked_iff =>
    rw [ran]
    exact iff_of_true rfl present
  case missing =>
    rw [ran]
    exact nofun
  case ok_iff =>
    rw [amReportedStatus_eq_ok_iff]
    constructor
    · rintro rfl
      refine ⟨⟨header, data, outcome⟩, by rw [ran], ?_⟩
      cases outcome with
      | returned result => cases caughtEq; rfl
      | panicked => cases caughtEq
    · rintro ⟨invocation, found, succeeded⟩
      exact caughtResult invocation (.ok ()) found succeeded
  case error =>
    intro invocation error found failed isErr
    rw [caughtResult invocation (.error error) found failed]
    exact if_pos isErr
  case nonError =>
    intro invocation error found failed notErr
    rw [caughtResult invocation (.error error) found failed]
    exact if_neg (Bool.eq_false_iff.mp notErr)
  case panic =>
    intro invocation found panicked
    rw [caughtPanic invocation found panicked]
    rfl
  case notInProgress => exact amReportedStatus_ne_inProgress caught

theorem reportsSoundly_of_clean {handler : AmHandler Captured}
    (clean : handler.inner.poisoned = false) (delivery : Delivery Captured) :
    ∃ status, ReportsSoundly handler delivery status := by
  by_cases missing : MissingBytes delivery.message.header ∨ MissingBytes delivery.message.data
  · exact ⟨_, reportsSoundly_of_missing missing⟩
  · obtain ⟨headerPresent, dataPresent⟩ := not_or.mp missing
    obtain ⟨header, headerBytes⟩ := supplied_of_not_missing headerPresent
    obtain ⟨data, dataBytes⟩ := supplied_of_not_missing dataPresent
    exact reportsSoundly_of_supplied clean headerBytes dataBytes

theorem clean_step {handler next : AmHandler Captured} {delivery : Delivery Captured}
    (clean : handler.inner.poisoned = false) (stepEq : step handler delivery = some next) :
    next.inner.poisoned = false := by
  obtain rfl := Option.some.inj stepEq
  exact not_poisoned_amTrampoline delivery.callback clean _ _

/-- Every delivery to an unpoisoned handler reports a sound status, whatever came
before it. -/
theorem deliveries_report_soundly (handler : AmHandler Captured)
    (unpoisoned : handler.inner.poisoned = false) (deliveries : List (Delivery Captured)) :
    EveryStep step (fun handler delivery _ => ∃ status, ReportsSoundly handler delivery status)
      handler deliveries :=
  @everyStep_of_invariant_before _ _ step (fun handler => handler.inner.poisoned = false) _
    clean_step (fun clean _ => reportsSoundly_of_clean clean _) handler unpoisoned deliveries

/-- A closure that panics on an empty message and then reports that it keeps the
data. -/
theorem panic_then_inProgress_sound :
    EveryStep step (fun handler delivery _ => ∃ status, ReportsSoundly handler delivery status)
      (AmHandler.new 0) [
        ⟨⟨.null 0, .null 0⟩, fun _ _ runs => (.panicked, runs + 1)⟩,
        ⟨⟨.null 0, .readable ⟨0x1000, by decide⟩ [1, 2]⟩,
          fun _ _ runs => (.returned (.error .inProgress), runs + 1)⟩] :=
  deliveries_report_soundly (AmHandler.new 0) rfl _

end DeliveryStatuses

end UcxRs
