import UcxRs.HandlerRegistration

/-!
# The lifetimes of handlers

The invariant of the memory of handlers: what UCX may call is in memory and has an
owner until the worker has been destroyed.  Every effect of the code keeps it, given
what the code knows at that point, and so does every delivery.
-/

namespace UcxRs

namespace HandlerRegistration

open InterruptedPrograms

variable {Captured : Type}

namespace World

/-- The allocation of the handler at an address. -/
def allocationAt (world : World Captured) (address : Word) : Option Nat :=
  (world.heap address).map LiveHandler.allocation

/-- The handler behind the pointer is in memory. -/
def Alive (world : World Captured) (arc : HandlerArc) : Prop :=
  world.allocationAt arc.address = some arc.allocation

def Owns (world : World Captured) (arc : HandlerArc) : Prop :=
  arc ∈ world.locals ∨ arc ∈ world.amHandlers

/-- The invariant of memory, owners and UCX's table. -/
structure Kept (trampoline : NonNull) (world : World Captured) : Prop where
  owned_alive : ∀ arc, world.Owns arc → world.Alive arc
  installed_owned : world.destroyed = false → ∀ arc ∈ world.installed, world.Owns arc
  stored_installed : ∀ entry ∈ world.stored, entry.cb = trampoline.val →
    ∃ arc ∈ world.installed, arc.address = entry.arg
  table_stored : ∀ id entry, world.table id = some entry → entry ∈ world.stored
  failed_apart : ∀ arc ∈ world.failed, arc ∉ world.installed
  failed_local : ∀ arc ∈ world.failed, world.Alive arc → arc ∈ world.locals
  numbered : ∀ address allocation, world.allocationAt address = some allocation →
    allocation < world.nextAllocation
  known_numbered : ∀ arc, arc ∈ world.installed ∨ arc ∈ world.failed →
    arc.allocation < world.nextAllocation
  found : ∀ run ∈ world.trampolineRuns, run.found.isSome = true

/-- No registration is on its way. -/
structure Quiet (trampoline : NonNull) (world : World Captured) : Prop where
  kept : world.Kept trampoline
  noLocals : world.locals = []

/-- A registration owns a handler that is not in the vector yet. -/
structure Registering (trampoline : NonNull) (arc : HandlerArc) (world : World Captured) :
    Prop where
  kept : world.Kept trampoline
  onlyLocal : world.locals = [arc]
  unretained : arc ∉ world.amHandlers

/-- UCX has not answered the registration yet. -/
structure Offering (trampoline : NonNull) (arc : HandlerArc) (world : World Captured) :
    Prop where
  registering : world.Registering trampoline arc
  uninstalled : arc ∉ world.installed
  unfailed : arc ∉ world.failed

/-- What the registration continues with, depending on the answer. -/
def Answered (trampoline : NonNull) (arc : HandlerArc) (status : UcsStatus)
    (world : World Captured) : Prop :=
  world.Registering trampoline arc ∧
    match statusToResult status with
    | .ok () => arc ∉ world.failed
    | .error _ => arc ∉ world.installed

/-- Two handlers in memory at one address are the same one. -/
theorem Alive.eq_of_address {world : World Captured} {first second : HandlerArc}
    (firstAlive : world.Alive first) (secondAlive : world.Alive second)
    (same : first.address = second.address) : first = second := by
  obtain ⟨firstAllocation, address⟩ := first
  obtain ⟨secondAllocation, other⟩ := second
  cases same
  cases Option.some.inj (firstAlive.symm.trans secondAlive)
  rfl

namespace Registering

variable {trampoline : NonNull} {arc : HandlerArc} {world : World Captured}

theorem mem_locals_iff (registering : world.Registering trampoline arc)
    {other : HandlerArc} : other ∈ world.locals ↔ other = arc := by
  rw [registering.onlyLocal, List.mem_singleton]

theorem arc_alive (registering : world.Registering trampoline arc) : world.Alive arc :=
  registering.kept.owned_alive arc (.inl (registering.mem_locals_iff.mpr rfl))

/-- The local variable gives the handler away. -/
theorem erase_locals (registering : world.Registering trampoline arc) :
    world.locals.erase arc = [] := by
  rw [registering.onlyLocal, List.erase_cons_head]

end Registering

theorem initial_quiet (trampoline : NonNull) :
    (initial : World Captured).Quiet trampoline := by
  refine ⟨?_, rfl⟩
  constructor
  case owned_alive =>
    rintro arc (member | member)
    · cases member
    · cases member
  case known_numbered =>
    rintro arc (member | member)
    · cases member
    · cases member
  case numbered => rintro address allocation ⟨⟩
  case table_stored => rintro id entry ⟨⟩
  all_goals simp [initial]

/-- A closure that runs stays in its allocation. -/
theorem allocation_update {heap : Word → Option (LiveHandler Captured)} {address : Word}
    {live changed : LiveHandler Captured} (here : heap address = some live)
    (same : changed.allocation = live.allocation) (other : Word) :
    (Function.update heap address (some changed) other).map LiveHandler.allocation =
      (heap other).map LiveHandler.allocation := by
  by_cases at_address : other = address
  · rw [at_address, Function.update_self, here, Option.map_some, Option.map_some, same]
  · rw [Function.update_of_ne at_address]

/-- A delivery finds the handler and only changes what it has captured. -/
theorem deliver_frame {trampoline : NonNull} {world next : World Captured} {message : Message}
    (kept : world.Kept trampoline)
    (delivered : world.deliver trampoline message = some next) :
    ∃ heap runs, next = { world with heap := heap, trampolineRuns := runs } ∧
      (∀ address, next.allocationAt address = world.allocationAt address) ∧
      ∀ run ∈ runs, run.found.isSome = true := by
  obtain ⟨intact, delivered⟩ := Option.ite_none_left_eq_some.mp delivered
  obtain ⟨stored, delivered⟩ := Option.ite_none_right_eq_some.mp delivered
  cases delivered
  have notDestroyed : world.destroyed = false := by simpa using intact
  unfold runCallback
  by_cases safe : message.entry.cb = trampoline.val
  · obtain ⟨arc, member, address⟩ := kept.stored_installed _ stored safe
    have alive := kept.owned_alive arc (kept.installed_owned notDestroyed arc member)
    rw [if_pos safe, ← address]
    cases here : world.heap arc.address with
    | none =>
        unfold Alive allocationAt at alive
        rw [here] at alive
        cases alive
    | some live =>
        refine ⟨_, _, rfl, allocation_update here rfl, ?_⟩
        intro run member
        rcases List.mem_cons.mp member with rfl | earlier
        · rfl
        · exact kept.found run earlier
  · rw [if_neg safe]
    exact ⟨world.heap, world.trampolineRuns, rfl, fun _ => rfl, kept.found⟩

theorem kept_deliver {trampoline : NonNull} {world next : World Captured} {message : Message}
    (kept : world.Kept trampoline)
    (delivered : world.deliver trampoline message = some next) :
    next.Kept trampoline := by
  obtain ⟨heap, runs, rfl, allocations, found⟩ := deliver_frame kept delivered
  constructor
  case owned_alive =>
    intro arc owned
    exact (allocations arc.address).trans (kept.owned_alive arc owned)
  case failed_local =>
    intro arc failed alive
    exact kept.failed_local arc failed ((allocations arc.address).symm.trans alive)
  case numbered =>
    intro address allocation here
    exact kept.numbered address allocation ((allocations address).symm.trans here)
  case found => exact found
  case installed_owned => exact kept.installed_owned
  case stored_installed => exact kept.stored_installed
  case table_stored => exact kept.table_stored
  case failed_apart => exact kept.failed_apart
  case known_numbered => exact kept.known_numbered

section Stable

variable {trampoline : NonNull} {worker : Worker}

/-- An assertion about owners that also says `Kept` survives deliveries. -/
theorem stable_of_frame {assertion : World Captured → Prop}
    (kept : ∀ {world}, assertion world → world.Kept trampoline)
    (framed : ∀ {world : World Captured} {heap runs}, assertion world →
      ({ world with heap := heap, trampolineRuns := runs } : World Captured).Kept trampoline →
      assertion { world with heap := heap, trampolineRuns := runs }) :
    (system trampoline worker).Stable assertion := by
  intro world message next holds delivered
  have after := kept_deliver (kept holds) delivered
  obtain ⟨heap, runs, rfl, _, _⟩ := deliver_frame (kept holds) delivered
  exact framed holds after

theorem stable_quiet :
    (system trampoline worker).Stable fun world : World Captured => world.Quiet trampoline :=
  stable_of_frame Quiet.kept fun quiet kept => ⟨kept, quiet.noLocals⟩

theorem stable_offering (arc : HandlerArc) :
    (system trampoline worker).Stable fun world : World Captured =>
      world.Offering trampoline arc := by
  apply stable_of_frame
  · intro world offering
    exact offering.registering.kept
  · intro world heap runs offering kept
    exact ⟨⟨kept, offering.registering.onlyLocal, offering.registering.unretained⟩,
      offering.uninstalled, offering.unfailed⟩

theorem stable_answered (arc : HandlerArc) (status : UcsStatus) :
    (system trampoline worker).Stable fun world : World Captured =>
      world.Answered trampoline arc status := by
  apply stable_of_frame
  · intro world answered
    exact answered.1.kept
  · intro world heap runs answered kept
    exact ⟨⟨kept, answered.1.onlyLocal, answered.1.unretained⟩, answered.2⟩

end Stable

/-- What a function that was changed at one place has there or elsewhere. -/
theorem eq_or_of_update {Key Value : Type} [DecidableEq Key] {table : Key → Option Value}
    {changed key : Key} {entry : Option Value} {value : Value}
    (here : Function.update table changed entry key = some value) :
    entry = some value ∨ table key = some value := by
  by_cases same : key = changed
  · rw [same, Function.update_self] at here
    exact .inl here
  · rw [Function.update_of_ne same] at here
    exact .inr here

section Answers

variable {trampoline : NonNull} {world : World Captured} {handlers : List HandlerArc}

/-- A registration that fails names handlers that were never installed. -/
theorem Kept.reject (kept : world.Kept trampoline)
    (named : ∀ arc ∈ handlers, arc ∈ world.locals ∧ arc ∉ world.installed) :
    ({ world with failed := handlers ++ world.failed } : World Captured).Kept trampoline :=
  { kept with
    failed_apart := by
      intro arc failed
      rcases List.mem_append.mp failed with now | before
      · exact (named arc now).2
      · exact kept.failed_apart arc before
    failed_local := by
      intro arc failed alive
      rcases List.mem_append.mp failed with now | before
      · exact (named arc now).1
      · exact kept.failed_local arc before alive
    known_numbered := by
      rintro arc (installed | failed)
      · exact kept.known_numbered arc (.inl installed)
      · rcases List.mem_append.mp failed with now | before
        · have alive := kept.owned_alive arc (.inl (named arc now).1)
          exact kept.numbered arc.address arc.allocation alive
        · exact kept.known_numbered arc (.inr before) }

/-- A null callback clears an id. -/
theorem Kept.clear (kept : world.Kept trampoline) (id : BitVec 32) :
    ({ world with table := Function.update world.table id none } : World Captured).Kept
      trampoline :=
  { kept with
    table_stored := by
      intro other entry here
      rcases eq_or_of_update here with now | before
      · cases now
      · exact kept.table_stored other entry before }

/-- A registration that succeeds installs handlers that are owned. -/
theorem Kept.install (kept : world.Kept trampoline) (id : BitVec 32) {entry : TableEntry}
    (named : ∀ arc ∈ handlers, arc ∈ world.locals ∧ arc ∉ world.failed)
    (names : entry.cb = trampoline.val → ∃ arc ∈ handlers, arc.address = entry.arg) :
    ({ world with
      table := Function.update world.table id (some entry)
      stored := entry :: world.stored
      installed := handlers ++ world.installed } : World Captured).Kept trampoline :=
  { kept with
    installed_owned := by
      intro intact arc installed
      rcases List.mem_append.mp installed with now | before
      · exact .inl (named arc now).1
      · exact kept.installed_owned intact arc before
    stored_installed := by
      intro other stored safe
      rcases List.mem_cons.mp stored with rfl | before
      · obtain ⟨arc, member, address⟩ := names safe
        exact ⟨arc, List.mem_append_left _ member, address⟩
      · obtain ⟨arc, member, address⟩ := kept.stored_installed other before safe
        exact ⟨arc, List.mem_append_right _ member, address⟩
    table_stored := by
      intro other entry here
      rcases eq_or_of_update here with now | before
      · cases now
        exact List.mem_cons_self
      · exact List.mem_cons_of_mem _ (kept.table_stored other entry before)
    failed_apart := by
      intro arc failed installed
      rcases List.mem_append.mp installed with now | before
      · exact (named arc now).2 failed
      · exact kept.failed_apart arc failed before
    known_numbered := by
      rintro arc (installed | failed)
      · rcases List.mem_append.mp installed with now | before
        · have alive := kept.owned_alive arc (.inl (named arc now).1)
          exact kept.numbered arc.address arc.allocation alive
        · exact kept.known_numbered arc (.inl before)
      · exact kept.known_numbered arc (.inr failed) }

/-- UCX's answer keeps the invariant if the handlers that the call names are on their
way. -/
theorem kept_setAmRecvHandler (kept : world.Kept trampoline) {param : UcpAmHandlerParam}
    (status : UcsStatus)
    (named : ∀ arc ∈ world.handlersOf trampoline (entryOf param),
      arc ∈ world.locals ∧ arc ∉ world.installed ∧ arc ∉ world.failed)
    (names : (entryOf param).cb = trampoline.val →
      ∃ arc ∈ world.handlersOf trampoline (entryOf param),
        arc.address = (entryOf param).arg) :
    (world.setAmRecvHandler trampoline param status).Kept trampoline := by
  unfold setAmRecvHandler
  cases statusToResult status with
  | error error =>
      exact kept.reject fun arc member => ⟨(named arc member).1, (named arc member).2.1⟩
  | ok success =>
      by_cases clears : (entryOf param).cb = 0
      · simp only [clears, if_true]
        exact kept.clear _
      · simp only [clears, if_false]
        exact kept.install _
          (fun arc member => ⟨(named arc member).1, (named arc member).2.2⟩) names

end Answers

/-- A raw callback, or none, names no handler. -/
theorem quiet_setAmRecvHandler {trampoline : NonNull} {world : World Captured}
    (quiet : world.Quiet trampoline) {param : UcpAmHandlerParam} (status : UcsStatus)
    (raw : (entryOf param).cb ≠ trampoline.val) :
    (world.setAmRecvHandler trampoline param status).Quiet trampoline := by
  refine ⟨kept_setAmRecvHandler quiet.kept status ?_ (fun safe => absurd safe raw), ?_⟩
  · intro arc member
    rw [handlersOf, if_neg raw] at member
    cases member
  · unfold setAmRecvHandler
    cases statusToResult status with
    | error error => exact quiet.noLocals
    | ok success =>
        dsimp only
        split_ifs <;> exact quiet.noLocals

theorem allocationAt_of_heap {world next : World Captured} {address : Word}
    {cell : Option (LiveHandler Captured)}
    (changed : next.heap = Function.update world.heap address cell) (other : Word) :
    next.allocationAt other =
      if other = address then cell.map LiveHandler.allocation
      else world.allocationAt other := by
  unfold allocationAt
  rw [changed, Function.update_apply]
  split_ifs <;> rfl

/-- A new handler has an address and a number that no known handler has. -/
theorem offering_newHandler {trampoline : NonNull} {world next : World Captured}
    {callback : AmCallback Captured} {captured : Captured} {arc : HandlerArc}
    (quiet : world.Quiet trampoline)
    (allocated : world.newHandler callback captured arc = some next) :
    next.Offering trampoline arc := by
  obtain ⟨⟨number, nonnull, vacant⟩, allocated⟩ := Option.ite_none_right_eq_some.mp allocated
  have kept := quiet.kept
  have elsewhere : ∀ other, world.Alive other → other.address ≠ arc.address := by
    intro other alive same
    rw [Alive, allocationAt, same, Option.isNone_iff_eq_none.mp vacant] at alive
    cases alive
  have unknown : ∀ other, other ∈ world.installed ∨ other ∈ world.failed → other ≠ arc := by
    rintro other known rfl
    exact absurd (kept.known_numbered other known) (by omega)
  have allocations : ∀ address, next.allocationAt address =
      if address = arc.address then some arc.allocation else world.allocationAt address := by
    cases allocated
    exact @allocationAt_of_heap _ world _ arc.address
      (some ⟨arc.allocation, callback, .new captured⟩) rfl
  cases allocated
  refine ⟨⟨?_, ?_, ?_⟩, ?_, ?_⟩
  · exact { kept with
      owned_alive := by
        intro other owned
        rw [Alive, allocations]
        by_cases new : other = arc
        · rw [new, if_pos rfl]
        · have alive : world.Alive other := by
            rcases owned with held | retained
            · exact kept.owned_alive other (.inl ((List.mem_cons.mp held).resolve_left new))
            · exact kept.owned_alive other (.inr retained)
          rw [if_neg (elsewhere other alive)]
          exact alive
      installed_owned := by
        intro intact other installed
        rcases kept.installed_owned intact other installed with held | retained
        · exact .inl (List.mem_cons_of_mem _ held)
        · exact .inr retained
      failed_local := by
        intro other failed alive
        rw [Alive, allocations] at alive
        by_cases same : other.address = arc.address
        · rw [if_pos same] at alive
          have bound := kept.known_numbered other (.inr failed)
          have numbers := Option.some.inj alive
          omega
        · rw [if_neg same] at alive
          exact List.mem_cons_of_mem _ (kept.failed_local other failed alive)
      numbered := by
        intro address allocation here
        change allocation < world.nextAllocation + 1
        rw [allocations] at here
        by_cases same : address = arc.address
        · rw [if_pos same] at here
          have numbers := Option.some.inj here
          omega
        · rw [if_neg same] at here
          have bound := kept.numbered address allocation here
          omega
      known_numbered := by
        intro other known
        exact Nat.lt_succ_of_lt (kept.known_numbered other known) }
  · change arc :: world.locals = [arc]
    rw [quiet.noLocals]
  · intro retained
    exact elsewhere arc (kept.owned_alive arc (.inr retained)) rfl
  · intro installed
    exact unknown arc (.inl installed) rfl
  · intro failed
    exact unknown arc (.inr failed) rfl

/-- The vector takes the handler over from the local variable. -/
theorem quiet_pushHandler {trampoline : NonNull} {world : World Captured} {arc : HandlerArc}
    (registering : world.Registering trampoline arc) (unfailed : arc ∉ world.failed) :
    ({ world with
      amHandlers := world.amHandlers ++ [arc]
      locals := world.locals.erase arc } : World Captured).Quiet trampoline := by
  have kept := registering.kept
  have noLocals := registering.erase_locals
  have moved : ∀ other, other ∈ world.amHandlers ++ [arc] ↔ world.Owns other := by
    intro other
    rw [Owns, registering.onlyLocal, List.mem_append]
    exact or_comm
  refine ⟨{ kept with
    owned_alive := ?_
    installed_owned := ?_
    failed_local := ?_ }, noLocals⟩
  · rintro other (held | retained)
    · rw [noLocals] at held
      cases held
    · exact kept.owned_alive other ((moved other).mp retained)
  · intro intact other installed
    exact .inr ((moved other).mpr (kept.installed_owned intact other installed))
  · intro other failed alive
    have same := registering.mem_locals_iff.mp (kept.failed_local other failed alive)
    rw [same] at failed
    exact absurd failed unfailed

/-- A handler that was not installed is freed without harm. -/
theorem quiet_dropHandler {trampoline : NonNull} {world : World Captured} {arc : HandlerArc}
    (registering : world.Registering trampoline arc) (uninstalled : arc ∉ world.installed) :
    ({ world with
      heap := Function.update world.heap arc.address none
      locals := world.locals.erase arc } : World Captured).Quiet trampoline := by
  have kept := registering.kept
  have noLocals := registering.erase_locals
  have allocations : ∀ address, ({ world with
      heap := Function.update world.heap arc.address none
      locals := world.locals.erase arc } : World Captured).allocationAt address =
      if address = arc.address then none else world.allocationAt address :=
    @allocationAt_of_heap _ world _ arc.address none rfl
  refine ⟨{ kept with
    owned_alive := ?_
    installed_owned := ?_
    failed_local := ?_
    numbered := ?_ }, noLocals⟩
  · rintro other (held | retained)
    · rw [noLocals] at held
      cases held
    · have alive := kept.owned_alive other (.inr retained)
      have elsewhere : other.address ≠ arc.address := by
        intro same
        have equal := alive.eq_of_address registering.arc_alive same
        exact registering.unretained (equal ▸ retained)
      rw [Alive, allocations, if_neg elsewhere]
      exact alive
  · intro intact other installed
    rcases kept.installed_owned intact other installed with held | retained
    · rw [registering.mem_locals_iff.mp held] at installed
      exact absurd installed uninstalled
    · exact .inr retained
  · intro other failed alive
    rw [Alive, allocations] at alive
    by_cases same : other.address = arc.address
    · rw [if_pos same] at alive
      cases alive
    · rw [if_neg same] at alive
      have equal := registering.mem_locals_iff.mp (kept.failed_local other failed alive)
      exact absurd (congrArg HandlerArc.address equal) same
  · intro address allocation here
    rw [allocations] at here
    by_cases same : address = arc.address
    · rw [if_pos same] at here
      cases here
    · rw [if_neg same] at here
      exact kept.numbered address allocation here

/-- After the worker has been destroyed, no pointer needs its handler. -/
theorem quiet_dropFields {trampoline : NonNull} {world next : World Captured}
    (quiet : world.Quiet trampoline) (destroyed : world.destroyed = true)
    (dropped : world.perform trampoline .dropFields () = some next) :
    next.Quiet trampoline := by
  have fewer : ∀ address allocation, next.allocationAt address = some allocation →
      world.allocationAt address = some allocation := by
    intro address allocation here
    cases dropped
    unfold allocationAt at here ⊢
    dsimp only at here
    split_ifs at here
    · cases here
    · exact here
  cases dropped
  refine ⟨{ quiet.kept with
    owned_alive := ?_
    installed_owned := ?_
    failed_local := ?_
    numbered := ?_ }, quiet.noLocals⟩
  · rintro arc (held | retained)
    · change arc ∈ world.locals at held
      rw [quiet.noLocals] at held
      cases held
    · cases retained
  · intro intact
    exact absurd (intact.symm.trans destroyed) Bool.false_ne_true
  · intro arc failed alive
    exact quiet.kept.failed_local arc failed (fewer _ _ alive)
  · intro address allocation here
    exact quiet.kept.numbered address allocation (fewer _ _ here)

/-- The call does not change UCX's handler table. -/
def Leaves (call : Call) : Prop :=
  ∀ worker param, call ≠ .ucpWorkerSetAmRecvHandler worker param

theorem quiet_ffi {trampoline : NonNull} {world next : World Captured} {call : Call}
    {answer : Answer call} (leaves : Leaves call) (quiet : world.Quiet trampoline)
    (performed : world.perform trampoline (.ffi call) answer = some next) :
    next.Quiet trampoline := by
  cases call with
  | ucpWorkerSetAmRecvHandler worker param => exact absurd rfl (leaves worker param)
  | ucpWorkerDestroy worker =>
      cases performed
      refine ⟨{ quiet.kept with installed_owned := ?_ }, quiet.noLocals⟩
      rintro ⟨⟩
  | _ =>
      cases performed
      exact quiet

end World

end HandlerRegistration

end UcxRs
