import UcxRs.ActiveMessages
import UcxRs.ListenerOwnership

/-!
# Handlers that panicked

Both trampolines document that a handler which panicked is not run again: its
mutex is poisoned, and the next delivery finds the poison.  Both run the
closure under `catch_unwind` while they hold the guard, so the guard is dropped
after the panic has been caught and the mutex stays clean.  Hence the handler
is run again by every delivery that follows a panic, and a sequence of
deliveries quarantines its handler exactly when no delivery follows a panic.
-/

namespace UcxRs

namespace HandlerQuarantine

open TransitionRuns
open UnwindingMutex (Completion Mutex)

structure AmMessage where
  header : RawBytes
  data : RawBytes
  deriving DecidableEq, Repr

def AmMessage.passesNullChecks (message : AmMessage) : Bool :=
  message.header.toSlice.isSome && message.data.toSlice.isSome

/-- A handler, and whether one of its closure runs has panicked. -/
structure AmRun (Captured : Type) where
  handler : AmHandler Captured
  panicked : Bool

section ActiveMessages

variable {Captured : Type} (callback : AmCallback Captured)

def AmRun.deliver (run : AmRun Captured) (message : AmMessage) : AmDelivery Captured :=
  amTrampoline callback run.handler message.header message.data

def amStep (run : AmRun Captured) (message : AmMessage) : Option (AmRun Captured) :=
  let delivery := run.deliver callback message
  some {
    handler := delivery.handler
    panicked := run.panicked ||
      delivery.invocation.any fun invocation => invocation.outcome.isPanic }

/-- No panic leaves the trampoline, and after a panic the closure is not run:
a delivery that passes the null checks reports an I/O error. -/
def AmQuarantined (run : AmRun Captured) (message : AmMessage)
    (_next : AmRun Captured) : Prop :=
  (run.deliver callback message).completion.isPanic = false ∧
    (run.panicked = true →
      (run.deliver callback message).invocation = none ∧
        (message.passesNullChecks = true →
          (run.deliver callback message).completion = .returned .errIoError))

/-- The message does not reach a handler that has panicked before. -/
def NoMessageAfterPanic (run : AmRun Captured) (message : AmMessage)
    (_next : AmRun Captured) : Prop :=
  run.panicked = true → message.passesNullChecks = false

theorem amQuarantined_iff {run : AmRun Captured} {message : AmMessage}
    {next : AmRun Captured} (clean : run.handler.inner.poisoned = false) :
    AmQuarantined callback run message next ↔ NoMessageAfterPanic run message next := by
  constructor
  · intro quarantined panicked
    have silent := (quarantined.2 panicked).1
    by_contra passes
    rw [Bool.not_eq_false, AmMessage.passesNullChecks, Bool.and_eq_true,
      Option.isSome_iff_exists, Option.isSome_iff_exists] at passes
    obtain ⟨⟨header, headerEq⟩, ⟨data, dataEq⟩⟩ := passes
    have ran := invocation_of_slices callback clean headerEq dataEq
    rw [AmRun.deliver, ran] at silent
    cases silent
  · intro noMessage
    refine ⟨isPanic_amTrampoline callback _ _ _, fun panicked => ⟨?_, fun passes => ?_⟩⟩
    · have rejected := noMessage panicked
      unfold AmMessage.passesNullChecks at rejected
      unfold AmRun.deliver amTrampoline
      cases headerEq : message.header.toSlice with
      | none => rfl
      | some header =>
          cases dataEq : message.data.toSlice with
          | none => rfl
          | some data =>
              rw [headerEq, dataEq] at rejected
              cases rejected
    · rw [noMessage panicked] at passes
      cases passes

/-- A sequence of messages quarantines its handler exactly when no message that
passes the null checks follows a panic. -/
theorem am_quarantined_iff (captured : Captured) (messages : List AmMessage) :
    EveryStep (amStep callback) (AmQuarantined callback)
        ⟨.new captured, false⟩ messages ↔
      EveryStep (amStep callback) NoMessageAfterPanic
        ⟨.new captured, false⟩ messages := by
  refine @everyStep_congr_of_invariant (AmRun Captured) AmMessage (amStep callback)
    (fun run => run.handler.inner.poisoned = false) _ _ ?_ ?_ _ rfl messages
  · intro run message next clean stepEq
    cases stepEq
    exact not_poisoned_amTrampoline callback clean message.header message.data
  · intro run message next clean _
    exact amQuarantined_iff callback clean

end ActiveMessages

section ConnectionRequests

open ListenerOwnership

/-- Whether each run of the closure of a state panicked, newest first. -/
def closureRuns (history : List Event) : List Bool :=
  history.filterMap fun
    | .invoked _ panicked => some panicked
    | _ => none

/-- No panic leaves the trampoline, and after a panic the delivered request is
dropped without a run of the closure. -/
def ConnQuarantined (world : World) (label : Label) (next : World) : Prop :=
  ∀ state connRequest behaviour, label = .deliver state connRequest behaviour →
    (∀ completion after,
      world.connTrampoline connRequest (some state) behaviour =
        some (completion, after) → completion.isPanic = false) ∧
    (true ∈ closureRuns (world.history state) →
      closureRuns (next.history state) = closureRuns (world.history state) ∧
        next.values = world.values)

/-- The request is not delivered to a handler that has panicked before. -/
def NoDeliveryAfterPanic (world : World) (label : Label) (_next : World) : Prop :=
  ∀ state connRequest behaviour, label = .deliver state connRequest behaviour →
    true ∉ closureRuns (world.history state)

/-- Every allocated state has a handler whose mutex is not poisoned. -/
def HandlersClean (world : World) : Prop :=
  ∀ state inner, world.heap state = some inner →
    ∃ handler, inner.data.connHandler = some handler ∧ handler.poisoned = false

variable {world : World} {state : ListenerRef}

theorem handlersClean_setCell {cell : Option ArcInner} (clean : HandlersClean world)
    (cellClean : ∀ inner, cell = some inner →
      ∃ handler, inner.data.connHandler = some handler ∧ handler.poisoned = false) :
    HandlersClean (world.setCell state cell) := by
  intro other inner found
  have updated : Function.update world.heap state cell other = some inner := found
  by_cases same : other = state
  · rw [same, Function.update_self] at updated
    exact cellClean inner updated
  · rw [Function.update_of_ne same] at updated
    exact clean other inner updated

theorem handlersClean_dropArc (clean : HandlersClean world) :
    HandlersClean (world.dropArc state) := by
  unfold World.dropArc
  split
  · exact clean
  · rename_i inner cell
    split
    · have freed : HandlersClean (world.setCell state none) :=
        handlersClean_setCell clean (fun _ none => by cases none)
      unfold World.dropState
      simp only
      split
      · exact freed
      · exact freed
    · refine handlersClean_setCell clean fun after afterEq => ?_
      cases afterEq
      exact clean state inner cell

theorem handlersClean_incrementStrongCount (clean : HandlersClean world) :
    HandlersClean (world.incrementStrongCount state) := by
  unfold World.incrementStrongCount
  split
  · exact clean
  · rename_i inner cell
    refine handlersClean_setCell clean fun after afterEq => ?_
    cases afterEq
    exact clean state inner cell

theorem handlersClean_apiCall {call : ApiCall} {next : World}
    (clean : HandlersClean world) (called : world.apiCall call = some next) :
    HandlersClean next := by
  cases call with
  | beginCreate callback =>
      cases called
      refine fun other inner found => ?_
      exact @handlersClean_setCell world ⟨world.nextAllocation⟩
        (some ⟨1, .unpublished callback⟩) clean
        (fun after afterEq => by
          cases afterEq
          exact ⟨_, rfl, rfl⟩) other inner found
  | endCreate state status handle =>
      obtain ⟨_, ⟨⟩⟩ := Option.ite_none_right_eq_some.mp called
      unfold World.endCreate
      split
      · split
        · exact clean
        · rename_i inner cell
          refine fun other after found => ?_
          exact @handlersClean_setCell world state
            (some { inner with data := inner.data.publish handle }) clean
            (fun published publishedEq => by
              cases publishedEq
              exact clean state inner cell) other after found
      · exact @handlersClean_dropArc ((world.setUcx state .failed).giveUp _) state clean
  | dropListener state =>
      obtain ⟨_, ⟨⟩⟩ := Option.ite_none_right_eq_some.mp called
      exact @handlersClean_dropArc (world.giveUp _) state clean
  | dropRequest request =>
      obtain ⟨_, ⟨⟩⟩ := Option.ite_none_right_eq_some.mp called
      exact @handlersClean_dropArc (world.giveUp _) request.state clean
  | reject listener request status =>
      obtain ⟨_, ⟨⟩⟩ := Option.ite_none_right_eq_some.mp called
      unfold World.reject
      split
      · exact clean
      · exact @handlersClean_dropArc ((world.record _).giveUp _) request.state clean
  | rejectOwned request status =>
      obtain ⟨_, ⟨⟩⟩ := Option.ite_none_right_eq_some.mp called
      unfold World.rejectOwned
      split
      · exact clean
      · exact @handlersClean_dropArc ((world.record _).giveUp _) request.state clean

theorem handlersClean_runCalls {calls : List ApiCall} {next : World}
    (clean : HandlersClean world) (ran : world.runCalls calls = some next) :
    HandlersClean next := by
  induction calls generalizing world with
  | nil =>
      cases ran
      exact clean
  | cons call calls ih =>
      obtain ⟨middle, called, rest⟩ := Option.bind_eq_some_iff.mp ran
      exact ih (handlersClean_apiCall clean called) rest

/-- The guard is dropped after `catch_unwind`, so it never poisons. -/
theorem handlersClean_runHandler {behaviour : Behaviour}
    {completion : Completion Unit} {next : World} (clean : HandlersClean world)
    (ran : world.runHandler state behaviour = some (completion, next)) :
    HandlersClean next := by
  obtain ⟨after, called, ⟨⟩⟩ := Option.map_eq_some_iff.mp ran
  have cleanAfter := handlersClean_runCalls clean called
  unfold World.unlockHandler
  split
  · exact cleanAfter
  · rename_i inner cell
    obtain ⟨handler, handlerEq, notPoisoned⟩ := cleanAfter state inner cell
    refine handlersClean_setCell cleanAfter fun unlocked unlockedEq => ?_
    cases unlockedEq
    refine ⟨handler.unlock handler.value behaviour.completion.catchUnwind.isPanic, ?_, ?_⟩
    · simp only [handlerEq]
      rfl
    · simp [Mutex.unlock, notPoisoned]

-- the log only grows

theorem log_dropArc : world.log <:+ (world.dropArc state).log := by
  unfold World.dropArc
  split
  · exact List.suffix_rfl
  · split
    · unfold World.dropState
      simp only
      split
      · exact (List.suffix_cons _ _).trans (List.suffix_cons _ _)
      · exact List.suffix_cons _ _
    · exact List.suffix_rfl

theorem log_incrementStrongCount :
    (world.incrementStrongCount state).log = world.log := by
  unfold World.incrementStrongCount
  split <;> rfl

theorem log_apiCall {call : ApiCall} {next : World}
    (called : world.apiCall call = some next) : world.log <:+ next.log := by
  cases call with
  | beginCreate callback =>
      cases called
      exact List.suffix_rfl
  | endCreate state status handle =>
      obtain ⟨_, ⟨⟩⟩ := Option.ite_none_right_eq_some.mp called
      unfold World.endCreate
      split
      · split
        · exact List.suffix_rfl
        · exact List.suffix_cons _ _
      · exact @log_dropArc ((world.setUcx state .failed).giveUp _) state
  | dropListener state =>
      obtain ⟨_, ⟨⟩⟩ := Option.ite_none_right_eq_some.mp called
      exact @log_dropArc (world.giveUp _) state
  | dropRequest request =>
      obtain ⟨_, ⟨⟩⟩ := Option.ite_none_right_eq_some.mp called
      exact @log_dropArc (world.giveUp _) request.state
  | reject listener request status =>
      obtain ⟨_, ⟨⟩⟩ := Option.ite_none_right_eq_some.mp called
      unfold World.reject
      split
      · exact List.suffix_rfl
      · exact (List.suffix_cons _ _).trans
          (@log_dropArc ((world.record _).giveUp _) request.state)
  | rejectOwned request status =>
      obtain ⟨_, ⟨⟩⟩ := Option.ite_none_right_eq_some.mp called
      unfold World.rejectOwned
      split
      · exact List.suffix_rfl
      · exact (List.suffix_cons _ _).trans
          (@log_dropArc ((world.record _).giveUp _) request.state)

theorem log_runCalls {calls : List ApiCall} {next : World}
    (ran : world.runCalls calls = some next) : world.log <:+ next.log := by
  induction calls generalizing world with
  | nil =>
      cases ran
      exact List.suffix_rfl
  | cons call calls ih =>
      obtain ⟨middle, called, rest⟩ := Option.bind_eq_some_iff.mp ran
      exact (log_apiCall called).trans (ih rest)

theorem closureRuns_length_le {next : World} (grown : world.log <:+ next.log) :
    (closureRuns (world.history state)).length ≤
      (closureRuns (next.history state)).length :=
  ((grown.filter _).filterMap _).length_le

theorem log_unlockHandler (unwinding : Bool) :
    (world.unlockHandler state unwinding).log = world.log := by
  unfold World.unlockHandler
  split <;> rfl

/-- The guarded part of a delivery runs the closure once and returns. -/
theorem closureRuns_runHandler {behaviour : Behaviour}
    {completion : Completion Unit} {next : World}
    (ran : world.runHandler state behaviour = some (completion, next)) :
    completion = .returned () ∧
      (closureRuns (world.history state)).length <
        (closureRuns (next.history state)).length := by
  obtain ⟨after, called, ⟨⟩⟩ := Option.map_eq_some_iff.mp ran
  refine ⟨Completion.discard_catchUnwind _, ?_⟩
  have recorded := @history_record after
    (.invoked state behaviour.completion.isPanic) state rfl
  have unlocked : ((after.record (.invoked state behaviour.completion.isPanic)).unlockHandler
      state behaviour.completion.catchUnwind.isPanic).history state =
        .invoked state behaviour.completion.isPanic :: after.history state := by
    rw [← recorded]
    exact congrArg (List.filter _) (log_unlockHandler _)
  have before : (closureRuns (world.history state)).length ≤
      (closureRuns (after.history state)).length :=
    closureRuns_length_le (log_runCalls called)
  rw [unlocked]
  exact Nat.lt_succ_of_le before

/-- A delivery to a clean handler runs the closure and returns. -/
theorem closureRuns_connTrampoline {connRequest : ConnRequestPointer}
    {behaviour : Behaviour} {completion : Completion Unit} {next : World}
    (clean : HandlersClean world)
    (delivered : world.connTrampoline connRequest (some state) behaviour =
      some (completion, next)) :
    completion = .returned () ∧
      (closureRuns (world.history state)).length <
        (closureRuns (next.history state)).length ∧
      HandlersClean next := by
  unfold World.connTrampoline at delivered
  simp only at delivered
  have cleanOwned : HandlersClean ((world.incrementStrongCount state).own
      (.connRequest ⟨connRequest, state⟩)) :=
    handlersClean_incrementStrongCount clean
  have cleanHeld := @handlersClean_incrementStrongCount _ state cleanOwned
  have sameLog : (((world.incrementStrongCount state).own
      (.connRequest ⟨connRequest, state⟩)).incrementStrongCount state).log =
        world.log := by
    rw [log_incrementStrongCount]
    exact log_incrementStrongCount
  split at delivered
  · cases delivered
  · rename_i inner cell
    obtain ⟨handler, handlerEq, notPoisoned⟩ := cleanHeld state inner cell
    rw [handlerEq] at delivered
    simp only [Mutex.lock_of_not_poisoned notPoisoned] at delivered
    obtain ⟨⟨handled, after⟩, ran, ⟨⟩⟩ := Option.map_eq_some_iff.mp delivered
    obtain ⟨returned, grows⟩ := closureRuns_runHandler ran
    have sameRuns := congrArg
      (fun log => (closureRuns (log.filter fun event =>
        decide (event.state = state))).length) sameLog
    refine ⟨returned, ?_, handlersClean_dropArc (handlersClean_runHandler cleanHeld ran)⟩
    exact (sameRuns ▸ grows).trans_le (closureRuns_length_le log_dropArc)

theorem handlersClean_step {label : Label} {next : World} (clean : HandlersClean world)
    (stepEq : step world label = some next) : HandlersClean next := by
  cases label with
  | api call => exact handlersClean_apiCall clean stepEq
  | deliver state connRequest behaviour =>
      obtain ⟨_, returned⟩ := Option.ite_none_right_eq_some.mp stepEq
      obtain ⟨⟨_, _⟩, delivered, rfl⟩ := Option.map_eq_some_iff.mp returned
      exact (closureRuns_connTrampoline clean delivered).2.2

theorem connQuarantined_step_iff {label : Label} {next : World}
    (clean : HandlersClean world) (stepEq : step world label = some next) :
    ConnQuarantined world label next ↔ NoDeliveryAfterPanic world label next := by
  constructor
  · rintro quarantined state connRequest behaviour rfl panicked
    obtain ⟨_, returned⟩ := Option.ite_none_right_eq_some.mp stepEq
    obtain ⟨⟨completion, after⟩, delivered, rfl⟩ := Option.map_eq_some_iff.mp returned
    have silent := ((quarantined state connRequest behaviour rfl).2 panicked).1
    have grows := (closureRuns_connTrampoline clean delivered).2.1
    rw [silent] at grows
    exact Nat.lt_irrefl _ grows
  · rintro noDelivery state connRequest behaviour rfl
    refine ⟨fun completion after delivered => ?_, fun panicked => ?_⟩
    · rw [(closureRuns_connTrampoline clean delivered).1]
      rfl
    · exact absurd panicked (noDelivery state connRequest behaviour rfl)

/-- A run of the listener world quarantines its handlers exactly when no
request is delivered after a panic of its handler. -/
theorem conn_quarantined_iff (run : List Label) :
    EveryStep step ConnQuarantined World.initial run ↔
      EveryStep step NoDeliveryAfterPanic World.initial run := by
  refine @everyStep_congr_of_invariant World Label step HandlersClean _ _ ?_ ?_ _ ?_ run
  · intro world label next clean stepEq
    exact handlersClean_step clean stepEq
  · intro world label next clean stepEq
    exact connQuarantined_step_iff clean stepEq
  · intro state inner found
    cases found

end ConnectionRequests

/-- Deliveries to a registered safe handler quarantine it after a panic exactly
when none follows the panic: no message that passes the null checks, and no
connection request. -/
theorem handlers_quarantined_iff {Captured : Type} (callback : AmCallback Captured)
    (captured : Captured) (messages : List AmMessage) (run : List ListenerOwnership.Label) :
    (EveryStep (amStep callback) (AmQuarantined callback) ⟨.new captured, false⟩ messages ↔
      EveryStep (amStep callback) NoMessageAfterPanic ⟨.new captured, false⟩ messages) ∧
    (EveryStep ListenerOwnership.step ConnQuarantined .initial run ↔
      EveryStep ListenerOwnership.step NoDeliveryAfterPanic .initial run) :=
  ⟨am_quarantined_iff callback captured messages, conn_quarantined_iff run⟩

/-- A closure that counts its runs and panics in each. -/
def panickingCallback : AmCallback Nat :=
  fun _ _ runs => (.panicked, runs + 1)

def emptyMessage : AmMessage where
  header := .null 0
  data := .null 0

/-- A listener whose handler panics on its first request. -/
def panickedListener : List ListenerOwnership.Label :=
  [.api (.beginCreate ⟨0⟩), .api (.endCreate ⟨0⟩ .ok ⟨4096⟩),
    .deliver ⟨0⟩ ⟨16⟩ ⟨[.dropRequest ⟨⟨16⟩, ⟨0⟩⟩], .panicked⟩]

/-- The closure of that listener runs once more at the second request. -/
private theorem panickedListener_deliveries :
    ∃ world next,
      runFrom ListenerOwnership.step .initial panickedListener = some world ∧
      ListenerOwnership.step world
        (.deliver ⟨0⟩ ⟨32⟩ ⟨[.dropRequest ⟨⟨32⟩, ⟨0⟩⟩], .panicked⟩) = some next ∧
      closureRuns (world.history ⟨0⟩) = [true] ∧
      closureRuns (next.history ⟨0⟩) = [true, true] :=
  ⟨_, _, rfl, rfl, rfl, rfl⟩

/-- The second message and the second connection request after a panic run the
closure again. -/
theorem panicked_handlers_run_again :
    ¬ EveryStep (amStep panickingCallback) (AmQuarantined panickingCallback)
        ⟨.new 0, false⟩ [emptyMessage, emptyMessage] ∧
      ¬ EveryStep ListenerOwnership.step ConnQuarantined .initial
        (panickedListener ++
          [.deliver ⟨0⟩ ⟨32⟩ ⟨[.dropRequest ⟨⟨32⟩, ⟨0⟩⟩], .panicked⟩]) := by
  constructor
  · intro everyStep
    obtain ⟨_, afterFirst⟩ := everyStep _ rfl
    obtain ⟨second, _⟩ := afterFirst _ rfl
    have silent := (second.2 rfl).1
    cases silent
  · intro everyStep
    obtain ⟨world, next, runEq, stepEq, before, after⟩ := panickedListener_deliveries
    have quarantined := everyStep.of_split runEq stepEq
    have panicked : true ∈ closureRuns (world.history ⟨0⟩) := by
      rw [before]
      exact List.mem_singleton_self true
    have silent := ((quarantined _ _ _ rfl).2 panicked).1
    rw [before, after] at silent
    cases silent

end HandlerQuarantine

end UcxRs
