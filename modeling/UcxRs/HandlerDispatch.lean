import UcxRs.DispatchTables
import UcxRs.HandlerQuarantine
import UcxRs.HandlerRetention
import UcxRs.WorkerLifetimes

/-!
# Handlers as a dispatch table

What the handlers of a worker are for, without pointers and memory: a message id has the
closure that was registered for it last, and every closure has what it captured, which
its own messages change.  A registration takes effect when UCX answers its call, in the
middle of `am_register_handler`, and a message may arrive at any step.

The events of a run are read off the API calls and the deliveries; the world of pointers
agrees at every step with the table that these events leave behind.
-/

namespace UcxRs

namespace HandlerRegistration

open DispatchTables
open HandlerQuarantine (AmMessage)
open Interaction
open Interaction.Program
open InterruptedPrograms
open TransitionRuns

variable {Captured : Type}

/-- What a closure makes of a message: it runs if both slices are there, and what it has
changed remains when it panics. -/
def react (callback : AmCallback Captured) (message : AmMessage) (captured : Captured) :
    Captured :=
  match message.header.toSlice, message.data.toSlice with
  | some header, some data => (callback header data captured).2
  | _, _ => captured

abbrev AmEvent (Captured : Type) : Type :=
  DispatchTables.Event (BitVec 32) AmMessage (AmCallback Captured) Captured

abbrev AmTable (Captured : Type) : Type :=
  DispatchTables.Table (BitVec 32) (AmCallback Captured) Captured

abbrev AmConfig (Captured : Type) : Type :=
  Config (World Captured) (Op Captured) (Effect Captured) Effect.Reply Op.Result

abbrev AmLabel (Captured : Type) : Type :=
  Label (Op Captured) Message (Effect Captured) Effect.Reply

/-- A call that UCX accepted, of an operation that sets a handler.  The number of a
closure is that of its allocation. -/
def observedSet (op : Op Captured) (world : World Captured) (param : UcpAmHandlerParam)
    (status : UcsStatus) : List (AmEvent Captured) :=
  match statusToResult status with
  | .error _ => []
  | .ok () =>
      match op with
      | .amRegisterHandler id _ callback captured =>
          [.install id ((world.allocationAt (entryOf param).arg).getD 0) ⟨callback, captured⟩]
      | .amRegister amParam => [.remove (idOf amParam.handle)]
      | .amUnregister id => [.remove id]
      | _ => []

def observedAnswer (op : Op Captured) (world : World Captured) :
    (effect : Effect Captured) → effect.Reply → List (AmEvent Captured)
  | .ffi (.ucpWorkerSetAmRecvHandler _ param), status => observedSet op world param status
  | .ffi (.ucpWorkerDestroy _), _ => [.close]
  | _, _ => []

/-- A message for `am_trampoline` is one for the closure behind its argument. -/
def observedMessage (trampoline : NonNull) (world : World Captured) (message : Message) :
    List (AmEvent Captured) :=
  if message.entry.cb = trampoline.val then
    ((world.allocationAt message.entry.arg).map fun number =>
      .deliver number ⟨message.header, message.data⟩).toList
  else []

def observed (trampoline : NonNull) (config : AmConfig Captured) :
    AmLabel Captured → List (AmEvent Captured)
  | .answer reply =>
      match config.running with
      | some ⟨op, .issue effect _⟩ => (reply effect).elim [] (observedAnswer op config.state effect)
      | _ => []
  | .occur message => observedMessage trampoline config.state message
  | _ => []

namespace World

/-- The closure that an entry of UCX's table is for. -/
def entryHandler (trampoline : NonNull) (world : World Captured) (entry : Option TableEntry) :
    Option Nat :=
  entry.bind fun entry =>
    if entry.cb = trampoline.val then world.allocationAt entry.arg else none

/-- The closure that UCX would run for an id. -/
def handlerFor (trampoline : NonNull) (world : World Captured) (id : BitVec 32) : Option Nat :=
  if world.destroyed then none else world.entryHandler trampoline (world.table id)

/-- A closure of this number was registered, and is in memory with what it captured. -/
def HasClosure (world : World Captured) (number : Nat)
    (installation : Installation (AmCallback Captured) Captured) : Prop :=
  ∃ arc ∈ world.installed, ∃ live, world.heap arc.address = some live ∧
    arc.allocation = number ∧ live.allocation = number ∧
    installation = ⟨live.callback, live.handler.inner.value⟩

/-- The table has the current closures of the world, and their states. -/
structure Represents (trampoline : NonNull) (table : AmTable Captured)
    (world : World Captured) : Prop where
  current : ∀ id, world.handlerFor trampoline id = table.current id
  closures : world.destroyed = false → ∀ number installation,
    table.installations number = some installation → world.HasClosure number installation

/-- Handlers in memory have numbers of their own, and none is poisoned. -/
structure Tidy (world : World Captured) : Prop where
  distinct : ∀ first second allocation, world.allocationAt first = some allocation →
    world.allocationAt second = some allocation → first = second
  clean : ∀ address live, world.heap address = some live →
    live.handler.inner.poisoned = false

/-- A step that was observed as these events. -/
structure Advance (trampoline : NonNull) (world next : World Captured)
    (events : List (AmEvent Captured)) : Prop where
  tidy : next.Tidy
  represents : ∀ table, world.Represents trampoline table →
    next.Represents trampoline (events.foldl (Table.apply react) table)
  installed : ∀ arc ∈ world.installed, arc ∈ next.installed
  single : (installedNumbers events).Nodup
  known : ∀ number ∈ installedNumbers events, ∃ arc ∈ next.installed, arc.allocation = number
  fresh : ∀ number ∈ installedNumbers events, ∀ arc ∈ world.installed, arc.allocation ≠ number
  closes : .close ∈ events → next.destroyed = true
  destroyed : world.destroyed = true → next.destroyed = true

end World

namespace World

section Advances

variable {trampoline : NonNull} {world next : World Captured}

theorem handlerFor_of_destroyed (destroyed : world.destroyed = true) (id : BitVec 32) :
    world.handlerFor trampoline id = none :=
  if_pos destroyed

theorem Tidy.of_heap (tidy : world.Tidy)
    (same : ∀ address live, next.heap address = some live → world.heap address = some live) :
    next.Tidy := by
  have before : ∀ address allocation, next.allocationAt address = some allocation →
      world.allocationAt address = some allocation := by
    intro address allocation here
    obtain ⟨live, found, rfl⟩ := Option.map_eq_some_iff.mp here
    exact congrArg (Option.map LiveHandler.allocation) (same address live found)
  constructor
  · intro first second allocation here there
    exact tidy.distinct first second allocation (before first allocation here)
      (before second allocation there)
  · exact fun address live here => tidy.clean address live (same address live here)

/-- A step that is not observed and keeps the closures. -/
theorem Advance.silent (tidy : next.Tidy)
    (current : ∀ id, next.handlerFor trampoline id = world.handlerFor trampoline id)
    (closures : next.destroyed = false → world.destroyed = false ∧
      ∀ number installation, world.HasClosure number installation →
        next.HasClosure number installation)
    (installed : next.installed = world.installed)
    (destroyed : world.destroyed = true → next.destroyed = true) :
    Advance trampoline world next [] where
  tidy := tidy
  represents table represents :=
    { current := fun id => (current id).trans (represents.current id)
      closures := fun intact number installation found =>
        have kept := closures intact
        kept.2 number installation (represents.closures kept.1 number installation found) }
  installed arc member := installed ▸ member
  single := List.nodup_nil
  known number absent := by cases absent
  fresh number absent := by cases absent
  closes absent := by cases absent
  destroyed := destroyed

/-- A step that leaves memory, the table and what was installed alone. -/
theorem Advance.same (tidy : world.Tidy) (heap : next.heap = world.heap)
    (table : next.table = world.table) (installed : next.installed = world.installed)
    (destroyed : next.destroyed = world.destroyed) : Advance trampoline world next [] := by
  refine .silent (tidy.of_heap fun address live here => heap ▸ here) (fun id => ?_)
    (fun intact => ⟨destroyed ▸ intact, fun number installation closure => ?_⟩) installed
    fun before => destroyed.trans before
  · unfold handlerFor entryHandler allocationAt
    rw [heap, table, destroyed]
  · unfold HasClosure at closure ⊢
    rw [heap, installed]
    exact closure

/-- Nothing is seen of a worker that UCX has destroyed. -/
theorem Advance.late (tidy : next.Tidy) (before : world.destroyed = true)
    (destroyed : next.destroyed = true) (installed : next.installed = world.installed) :
    Advance trampoline world next [] := by
  refine .silent tidy (fun id => ?_) (fun intact => ?_) installed fun _ => destroyed
  · rw [handlerFor_of_destroyed before, handlerFor_of_destroyed destroyed]
  · cases destroyed.symm.trans intact

theorem Advance.close (tidy : next.Tidy) (destroyed : next.destroyed = true)
    (installed : next.installed = world.installed) :
    Advance trampoline world next [.close] where
  tidy := tidy
  represents table represents :=
    { current := fun id => handlerFor_of_destroyed destroyed id
      closures := fun intact => by cases destroyed.symm.trans intact }
  installed arc member := installed ▸ member
  single := List.nodup_nil
  known number absent := by cases absent
  fresh number absent := by cases absent
  closes _ := destroyed
  destroyed _ := destroyed

/-- A closure is found at the address of an entry that UCX has. -/
theorem Kept.heap_of_table (kept : world.Kept trampoline) (intact : world.destroyed = false)
    {id : BitVec 32} {entry : TableEntry} (found : world.table id = some entry)
    (safe : entry.cb = trampoline.val) :
    ∃ arc ∈ world.installed, arc.address = entry.arg ∧ world.Alive arc := by
  obtain ⟨arc, member, address⟩ :=
    kept.stored_installed entry (kept.table_stored id entry found) safe
  exact ⟨arc, member, address, kept.owned_alive arc (kept.installed_owned intact arc member)⟩

/-- Memory changes at an address where no closure is installed. -/
theorem Advance.elsewhere (kept : world.Kept trampoline) (intact : world.destroyed = false)
    (tidy : next.Tidy) {address : Word}
    (apart : ∀ arc ∈ world.installed, world.Alive arc → arc.address ≠ address)
    (heap : ∀ other, other ≠ address → next.heap other = world.heap other)
    (table : next.table = world.table) (installed : next.installed = world.installed)
    (destroyed : next.destroyed = world.destroyed) : Advance trampoline world next [] := by
  refine .silent tidy (fun id => ?_) (fun _ => ⟨intact, ?_⟩) installed
    fun before => destroyed.trans before
  · unfold handlerFor entryHandler
    rw [table, destroyed]
    cases found : world.table id with
    | none => rfl
    | some entry =>
        by_cases safe : entry.cb = trampoline.val
        · obtain ⟨arc, member, isArg, alive⟩ := kept.heap_of_table intact found safe
          have same : next.allocationAt entry.arg = world.allocationAt entry.arg :=
            congrArg (Option.map LiveHandler.allocation)
              (heap entry.arg (isArg ▸ apart arc member alive))
          simp only [Option.bind_some, same]
        · simp only [Option.bind_some, if_neg safe]
  · rintro number installation ⟨arc, member, live, here, rest⟩
    have alive := kept.owned_alive arc (kept.installed_owned intact arc member)
    refine ⟨arc, installed ▸ member, live, ?_, rest⟩
    rw [heap arc.address (apart arc member alive)]
    exact here

theorem advance_newHandler (kept : world.Kept trampoline) (intact : world.destroyed = false)
    (tidy : world.Tidy) {callback : AmCallback Captured} {captured : Captured}
    {arc : HandlerArc} (allocated : world.newHandler callback captured arc = some next) :
    Advance trampoline world next [] := by
  obtain ⟨⟨number, -, vacant⟩, allocated⟩ := Option.ite_none_right_eq_some.mp allocated
  have noneHere := Option.isNone_iff_eq_none.mp vacant
  have allocations : ∀ address, next.allocationAt address =
      if address = arc.address then some arc.allocation else world.allocationAt address := by
    cases allocated
    exact @allocationAt_of_heap _ world _ arc.address
      (some ⟨arc.allocation, callback, .new captured⟩) rfl
  have older : ∀ address allocation, world.allocationAt address = some allocation →
      allocation ≠ arc.allocation := by
    intro address allocation here
    have bound := kept.numbered address allocation here
    omega
  cases allocated
  refine .elsewhere kept intact ⟨?_, ?_⟩ (fun other _ alive same => ?_)
    (fun other different => Function.update_of_ne different _ _) rfl rfl rfl
  · intro first second allocation here there
    rw [allocations] at here there
    by_cases isFirst : first = arc.address
    · by_cases isSecond : second = arc.address
      · rw [isFirst, isSecond]
      · rw [if_pos isFirst] at here
        rw [if_neg isSecond] at there
        exact absurd (Option.some.inj here).symm (older second allocation there)
    · rw [if_neg isFirst] at here
      by_cases isSecond : second = arc.address
      · rw [if_pos isSecond] at there
        exact absurd (Option.some.inj there).symm (older first allocation here)
      · rw [if_neg isSecond] at there
        exact tidy.distinct first second allocation here there
  · intro address live here
    rcases eq_or_of_update here with now | before
    · cases now
      rfl
    · exact tidy.clean address live before
  · rw [Alive, same, allocationAt, noneHere] at alive
    cases alive

/-- A handler that was not installed is freed. -/
theorem advance_dropHandler (kept : world.Kept trampoline) (intact : world.destroyed = false)
    (tidy : world.Tidy) {arc : HandlerArc} (alive : world.Alive arc)
    (uninstalled : arc ∉ world.installed) :
    Advance trampoline world { world with
      heap := Function.update world.heap arc.address none
      locals := world.locals.erase arc } [] := by
  refine .elsewhere kept intact (tidy.of_heap fun address live here => ?_)
    (fun other member otherAlive same => ?_)
    (fun other different => Function.update_of_ne different _ _) rfl rfl rfl
  · rcases eq_or_of_update here with now | before
    · cases now
    · exact before
  · have equal := otherAlive.eq_of_address alive same
    exact uninstalled (equal ▸ member)

theorem advance_of_rejected (tidy : world.Tidy) {param : UcpAmHandlerParam}
    {status error : UcsStatus} (rejected : statusToResult status = .error error) :
    Advance trampoline world (world.setAmRecvHandler trampoline param status) [] := by
  unfold setAmRecvHandler
  rw [rejected]
  exact .same tidy rfl rfl rfl rfl

theorem setAmRecvHandler_accepted {param : UcpAmHandlerParam} {status : UcsStatus}
    (accepted : statusToResult status = .ok ()) :
    world.setAmRecvHandler trampoline param status =
      if (entryOf param).cb = 0 then
        { world with table := Function.update world.table (idOf param) none }
      else { world with
        table := Function.update world.table (idOf param) (some (entryOf param))
        stored := entryOf param :: world.stored
        installed := world.handlersOf trampoline (entryOf param) ++ world.installed } := by
  unfold setAmRecvHandler
  rw [accepted]

/-- One id of UCX's table has changed. -/
theorem current_of_table (next : World Captured) {table : AmTable Captured} {id : BitVec 32}
    {entry : Option TableEntry} {event : AmEvent Captured} {number : Option Nat}
    (represents : world.Represents trampoline table) (heap : next.heap = world.heap)
    (destroyed : next.destroyed = world.destroyed)
    (changed : next.table = Function.update world.table id entry)
    (isHandler : world.destroyed = false → world.entryHandler trampoline entry = number)
    (isNone : world.destroyed = true → number = none)
    (decided : ∀ other, decides other event = if id = other then some number else none)
    (other : BitVec 32) :
    next.handlerFor trampoline other = (table.apply react event).current other := by
  rw [current_apply, decided, ← represents.current other]
  unfold handlerFor
  have handlers : next.entryHandler trampoline = world.entryHandler trampoline := by
    funext entry
    unfold entryHandler allocationAt
    rw [heap]
  rw [destroyed, handlers, changed]
  cases ended : world.destroyed with
  | true =>
      rw [isNone ended, if_pos rfl, if_pos rfl]
      split_ifs <;> rfl
  | false =>
      by_cases same : id = other
      · subst same
        rw [Function.update_self, isHandler ended, if_pos rfl]
        rfl
      · rw [Function.update_of_ne (Ne.symm same), if_neg same]
        rfl

/-- A raw callback, or none, takes the id away from the closures. -/
theorem advance_remove (tidy : world.Tidy) {param : UcpAmHandlerParam} {status : UcsStatus}
    (accepted : statusToResult status = .ok ())
    (raw : (entryOf param).cb ≠ trampoline.val) :
    Advance trampoline world (world.setAmRecvHandler trampoline param status)
      [.remove (idOf param)] := by
  have noHandlers : world.handlersOf trampoline (entryOf param) = [] := if_neg raw
  obtain ⟨entry, stored, isNext, isRaw⟩ : ∃ entry stored,
      world.setAmRecvHandler trampoline param status =
        { world with
          table := Function.update world.table (idOf param) entry
          stored := stored } ∧
      ∀ found, entry = some found → found.cb ≠ trampoline.val := by
    rw [setAmRecvHandler_accepted accepted, noHandlers, List.nil_append]
    by_cases clears : (entryOf param).cb = 0
    · rw [if_pos clears]
      exact ⟨none, world.stored, rfl, by rintro _ ⟨⟩⟩
    · rw [if_neg clears]
      exact ⟨some (entryOf param), _, rfl, by rintro _ ⟨⟩; exact raw⟩
  have noHandler : world.entryHandler trampoline entry = none := by
    cases isEntry : entry with
    | none => rfl
    | some found => exact if_neg (isRaw found isEntry)
  rw [isNext]
  refine ⟨⟨tidy.distinct, tidy.clean⟩, fun table represents => ⟨?_, ?_⟩,
    fun arc member => member, List.nodup_nil, fun number absent => (by cases absent),
    fun number absent => (by cases absent), fun absent => ?_, fun before => before⟩
  · have decided : ∀ other, decides other (.remove (idOf param) : AmEvent Captured) =
        if idOf param = other then some none else none := fun _ => rfl
    exact current_of_table { world with
      table := Function.update world.table (idOf param) entry
      stored := stored } represents rfl rfl rfl (fun _ => noHandler) (fun _ => rfl) decided
  · exact fun intact number installation found =>
      represents.closures intact number installation found
  · rcases List.mem_singleton.mp absent with ⟨⟩

/-- A registration that UCX accepts puts its closure in the table. -/
theorem advance_install (kept : world.Kept trampoline) (intact : world.destroyed = false)
    (tidy : world.Tidy) {param : UcpAmHandlerParam} {status : UcsStatus} {arc : HandlerArc}
    {callback : AmCallback Captured} {captured : Captured}
    (accepted : statusToResult status = .ok ())
    (names : entryOf param = ⟨trampoline.val, arc.address⟩)
    (here : world.heap arc.address = some ⟨arc.allocation, callback, .new captured⟩)
    (uninstalled : arc ∉ world.installed) :
    Advance trampoline world (world.setAmRecvHandler trampoline param status)
      [.install (idOf param) arc.allocation ⟨callback, captured⟩] := by
  have alive : world.Alive arc := congrArg (Option.map LiveHandler.allocation) here
  have handlers : world.handlersOf trampoline (entryOf param) = [arc] := by
    rw [names]
    exact handlersOf_registration alive
  have isNext : world.setAmRecvHandler trampoline param status =
      { world with
        table := Function.update world.table (idOf param)
          (some ⟨trampoline.val, arc.address⟩)
        stored := ⟨trampoline.val, arc.address⟩ :: world.stored
        installed := arc :: world.installed } := by
    have clears : (entryOf param).cb ≠ 0 := by
      rw [names]
      exact trampoline.property
    rw [setAmRecvHandler_accepted accepted, handlers, if_neg clears, names]
    rfl
  have fresh : ∀ other ∈ world.installed, other.allocation ≠ arc.allocation := by
    intro other member same
    have otherAlive := kept.owned_alive other (kept.installed_owned intact other member)
    unfold Alive at otherAlive
    rw [same] at otherAlive
    have address := tidy.distinct other.address arc.address arc.allocation otherAlive alive
    obtain ⟨allocation, otherAddress⟩ := other
    obtain ⟨number, arcAddress⟩ := arc
    cases same
    cases address
    exact uninstalled member
  rw [isNext]
  have isHandler : world.entryHandler trampoline (some ⟨trampoline.val, arc.address⟩) =
      some arc.allocation := (if_pos rfl).trans alive
  refine ⟨⟨tidy.distinct, tidy.clean⟩, fun table represents => ⟨?_, ?_⟩,
    fun other member => List.mem_cons_of_mem _ member, List.nodup_singleton _, ?_, ?_,
    fun absent => ?_, fun before => before⟩
  · have decided : ∀ other, decides other
        (.install (idOf param) arc.allocation ⟨callback, captured⟩ : AmEvent Captured) =
          if idOf param = other then some (some arc.allocation) else none := fun _ => rfl
    refine current_of_table { world with
      table := Function.update world.table (idOf param) (some ⟨trampoline.val, arc.address⟩)
      stored := ⟨trampoline.val, arc.address⟩ :: world.stored
      installed := arc :: world.installed } represents rfl rfl rfl (fun _ => isHandler)
      (fun ended => ?_) decided
    cases ended.symm.trans intact
  · intro _ number installation found
    by_cases same : number = arc.allocation
    · subst same
      have isNew : some _ = some installation :=
        (Function.update_self arc.allocation _ table.installations).symm.trans found
      cases isNew
      exact ⟨arc, List.mem_cons_self, _, here, rfl, rfl, rfl⟩
    · have before := (Function.update_of_ne same _ table.installations).symm.trans found
      obtain ⟨other, member, rest⟩ := represents.closures intact number installation before
      exact ⟨other, List.mem_cons_of_mem _ member, rest⟩
  · intro number isNumber
    obtain rfl := List.mem_singleton.mp isNumber
    exact ⟨arc, List.mem_cons_self, rfl⟩
  · intro number isNumber
    obtain rfl := List.mem_singleton.mp isNumber
    exact fresh
  · rcases List.mem_singleton.mp absent with ⟨⟩

theorem amTrampoline_value {callback : AmCallback Captured} {handler : AmHandler Captured}
    (clean : handler.inner.poisoned = false) (header data : RawBytes) :
    (amTrampoline callback handler header data).handler.inner.value =
      react callback ⟨header, data⟩ handler.inner.value := by
  unfold amTrampoline react
  cases header.toSlice with
  | none => rfl
  | some headerBytes =>
      cases data.toSlice with
      | none => rfl
      | some dataBytes =>
          simp only [UnwindingMutex.Mutex.lock_of_not_poisoned clean]
          unfold UnwindingMutex.Mutex.hold amRunGuarded
          rcases callback headerBytes dataBytes handler.inner.value with ⟨outcome, captured⟩
          cases outcome <;> rfl

/-- A message changes what its closure has captured, and nothing else. -/
theorem represents_deliver {table : AmTable Captured}
    (represents : world.Represents trampoline table) (tidy : world.Tidy) {address : Word}
    {live : LiveHandler Captured} (here : world.heap address = some live) (message : AmMessage)
    (runs : List TrampolineRun) :
    ({ world with
      heap := Function.update world.heap address (some { live with
        handler := (amTrampoline live.callback live.handler message.header
          message.data).handler })
      trampolineRuns := runs } : World Captured).Represents trampoline
        (table.apply react (.deliver live.allocation message)) := by
  have value := @amTrampoline_value _ live.callback live.handler (tidy.clean address live here)
    message.header message.data
  constructor
  · intro id
    refine Eq.trans ?_ (represents.current id)
    unfold handlerFor entryHandler
    have allocations : ∀ other, (Function.update world.heap address (some { live with
        handler := (amTrampoline live.callback live.handler message.header
          message.data).handler }) other).map LiveHandler.allocation = world.allocationAt other :=
      allocation_update here rfl
    unfold allocationAt at allocations ⊢
    simp only [allocations]
  · intro intact number installation found
    by_cases same : number = live.allocation
    · subst same
      have before := (Function.update_self live.allocation _ table.installations).symm.trans found
      obtain ⟨installed, wasInstalled, rfl⟩ := Option.map_eq_some_iff.mp before
      obtain ⟨arc, member, other, there, isNumber, sameNumber, rfl⟩ :=
        represents.closures intact live.allocation installed wasInstalled
      have sameAddress := tidy.distinct arc.address address live.allocation
        (by unfold allocationAt; rw [there, Option.map_some, sameNumber])
        (by unfold allocationAt; rw [here, Option.map_some])
      rw [sameAddress, here] at there
      cases there
      refine ⟨arc, member, { live with
        handler := (amTrampoline live.callback live.handler message.header
          message.data).handler }, ?_, isNumber, rfl, ?_⟩
      · rw [sameAddress]
        exact Function.update_self address _ world.heap
      · exact congrArg (Installation.mk live.callback) value.symm
    · have before := (Function.update_of_ne same _ table.installations).symm.trans found
      obtain ⟨arc, member, other, there, rest⟩ :=
        represents.closures intact number installation before
      have apart : arc.address ≠ address := by
        intro sameAddress
        rw [sameAddress, here] at there
        cases there
        exact same rest.2.1.symm
      exact ⟨arc, member, other, (Function.update_of_ne apart _ _).trans there, rest⟩

theorem advance_deliver (kept : world.Kept trampoline) (tidy : world.Tidy) {message : Message}
    (delivered : world.deliver trampoline message = some next) :
    Advance trampoline world next (observedMessage trampoline world message) := by
  obtain ⟨intact, delivered⟩ := Option.ite_none_left_eq_some.mp delivered
  obtain ⟨stored, delivered⟩ := Option.ite_none_right_eq_some.mp delivered
  cases delivered
  have notDestroyed : world.destroyed = false := by simpa using intact
  unfold runCallback observedMessage
  by_cases safe : message.entry.cb = trampoline.val
  · obtain ⟨arc, member, address⟩ := kept.stored_installed _ stored safe
    have alive := kept.owned_alive arc (kept.installed_owned notDestroyed arc member)
    obtain ⟨live, here, -⟩ := Option.map_eq_some_iff.mp alive
    rw [address] at here
    have number : world.allocationAt message.entry.arg = some live.allocation :=
      congrArg (Option.map LiveHandler.allocation) here
    rw [if_pos safe, if_pos safe, here, number]
    refine ⟨⟨?_, ?_⟩, fun table represents => ?_, fun _ member => member, List.nodup_nil,
      fun number absent => (by cases absent), fun number absent => (by cases absent),
      fun absent => ?_, fun before => before⟩
    · have allocations := @allocation_update _ world.heap _ _ { live with
        handler := (amTrampoline live.callback live.handler message.header
          message.data).handler } here rfl
      unfold allocationAt
      simp only [allocations]
      exact tidy.distinct
    · intro other found isFound
      rcases eq_or_of_update isFound with now | before
      · cases now
        exact not_poisoned_amTrampoline _ (tidy.clean _ live here) _ _
      · exact tidy.clean other found before
    · exact represents_deliver represents tidy here ⟨message.header, message.data⟩ _
    · rcases List.mem_singleton.mp absent with ⟨⟩
  · rw [if_neg safe, if_neg safe]
    exact .same tidy rfl rfl rfl rfl

end Advances

end World

end HandlerRegistration

end UcxRs
