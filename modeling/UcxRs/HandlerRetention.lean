import UcxRs.HandlerLifetimes
import UcxRs.WorkerCalls

/-!
# Handlers outlive their uses

`am_register_handler` owns a new handler through a local variable until UCX has
answered.  If UCX stored the pointer, the handler moves to the vector of the worker,
which only grows until `ucp_worker_destroy` has returned; if not, it is freed with
the local variable.  So a pointer that UCX may still use, whether it is current,
replaced or removed, always points to its handler.
-/

namespace UcxRs

namespace HandlerRegistration

open Interaction
open Interaction.Program
open InterruptedPrograms
open TransitionRuns

variable {Captured : Type}

section Outlines

variable {trampoline : NonNull} {worker : Worker} {during : World Captured → Prop}

/-- A program that leaves the table alone leaves the world quiet. -/
theorem outline_calling {Result : Type} {program : Ffi Result}
    (leaves : program.EveryCall World.Leaves)
    (kept : ∀ world : World Captured, world.Quiet trampoline → during world) :
    (system trampoline worker).Outline during (World.Quiet trampoline) (calling program)
      fun _ => World.Quiet trampoline := by
  have every : (calling program).EveryCall
      fun effect : Effect Captured => ∃ call, effect = .ffi call ∧ World.Leaves call :=
    leaves.embed fun call leaves => ⟨call, rfl, leaves⟩
  apply System.Outline.of_everyCall every World.stable_quiet kept
  rintro world _ answer next ⟨call, rfl, leaves⟩ quiet performed
  exact World.quiet_ffi leaves quiet performed

/-- One call that leaves the table alone, and the rest of the program. -/
theorem outline_leaving {Result : Type} {call : Call} (leaves : World.Leaves call)
    (kept : ∀ world : World Captured, world.Quiet trampoline → during world)
    {rest : Answer call → Code Captured Result} {after : Result → World Captured → Prop}
    (continues : ∀ answer, (system trampoline worker).Outline during (World.Quiet trampoline)
      (rest answer) after) :
    (system trampoline worker).Outline during (World.Quiet trampoline)
      (.issue (.ffi call) rest) after := by
  refine ⟨kept, fun _ => World.Quiet trampoline, fun _ => World.stable_quiet, ?_, continues⟩
  intro world answer next quiet performed
  have performed : world.perform trampoline (.ffi call) answer = some next := performed
  exact World.quiet_ffi leaves quiet performed

/-- One call that may change the table, of a raw callback or of none. -/
theorem outline_setting {param : UcpAmHandlerParam} {handle : WorkerHandle}
    (raw : (entryOf param).cb ≠ trampoline.val)
    (kept : ∀ world : World Captured, world.Quiet trampoline → during world) :
    (system trampoline worker).Outline during (World.Quiet trampoline)
      (calling do
        let status ← perform (.ucpWorkerSetAmRecvHandler handle param)
        pure (statusToResult status))
      fun _ => World.Quiet trampoline := by
  refine ⟨kept, fun _ => World.Quiet trampoline, fun _ => World.stable_quiet, ?_,
    fun _ => ⟨kept, fun _ quiet => quiet⟩⟩
  intro world status next quiet performed
  cases performed
  exact World.quiet_setAmRecvHandler quiet status raw

theorem entryOf_registration (id : BitVec 32) (flags : CbFlags) (address : Word) :
    entryOf ((((HandlerParamsBuilder.new.id id).flags flags).cb trampoline.val).arg
      address).build.handle = ⟨trampoline.val, address⟩ := by
  have mask : ((((HandlerParamsBuilder.new.id id).flags flags).cb trampoline.val).arg
      address).build.handle.fieldMask = 15#64 := by
    change (0#64 ||| 1#64 ||| 2#64 ||| 4#64 ||| 8#64) = 15#64
    decide
  unfold entryOf selected
  rw [mask, if_pos (by decide), if_pos (by decide)]
  rfl

theorem handlersOf_registration {world : World Captured} {arc : HandlerArc}
    (alive : world.Alive arc) :
    world.handlersOf trampoline ⟨trampoline.val, arc.address⟩ = [arc] := by
  obtain ⟨live, here, number⟩ := Option.map_eq_some_iff.mp alive
  rw [World.handlersOf, if_pos rfl, here, Option.map_some, number]
  rfl

/-- UCX's answer decides whether the pointer is installed. -/
theorem answered_registration {world : World Captured} {arc : HandlerArc}
    (offering : world.Offering trampoline arc) {param : UcpAmHandlerParam}
    (names : entryOf param = ⟨trampoline.val, arc.address⟩) (status : UcsStatus) :
    (world.setAmRecvHandler trampoline param status).Answered trampoline arc status := by
  obtain ⟨registering, uninstalled, unfailed⟩ := offering
  have handlers : world.handlersOf trampoline (entryOf param) = [arc] := by
    rw [names]
    exact handlersOf_registration registering.arc_alive
  have after : (world.setAmRecvHandler trampoline param status).Kept trampoline := by
    apply World.kept_setAmRecvHandler registering.kept status
    · intro other member
      rw [handlers, List.mem_singleton] at member
      rw [member]
      exact ⟨registering.mem_locals_iff.mpr rfl, uninstalled, unfailed⟩
    · intro _
      refine ⟨arc, ?_, ?_⟩
      · rw [handlers]
        exact List.mem_cons_self
      · rw [names]
  have clears : (entryOf param).cb ≠ 0 := by
    rw [names]
    exact trampoline.property
  unfold World.setAmRecvHandler at after ⊢
  unfold World.Answered
  cases answer : statusToResult status with
  | error error =>
      simp only [answer] at after ⊢
      exact ⟨⟨after, registering.onlyLocal, registering.unretained⟩, uninstalled⟩
  | ok success =>
      simp only [answer, if_neg clears] at after ⊢
      exact ⟨⟨after, registering.onlyLocal, registering.unretained⟩, unfailed⟩

/-- The registration's handler is owned at every step. -/
theorem outline_amRegisterHandler (id : BitVec 32) (flags : CbFlags)
    (callback : AmCallback Captured) (captured : Captured)
    (kept : ∀ world : World Captured, world.Kept trampoline → during world) :
    (system trampoline worker).Outline during (World.Quiet trampoline)
      (amRegisterHandler trampoline worker id flags callback captured)
      fun _ => World.Quiet trampoline := by
  refine ⟨fun world quiet => kept world quiet.kept, fun arc => World.Offering trampoline arc,
    World.stable_offering, ?_, fun arc => ?_⟩
  · intro world arc next quiet performed
    exact World.offering_newHandler quiet performed
  refine ⟨fun world offering => kept world offering.registering.kept,
    fun status => World.Answered trampoline arc status, World.stable_answered arc, ?_,
    fun status => ?_⟩
  · intro world status next offering performed
    cases performed
    exact answered_registration offering (entryOf_registration id flags arc.address) status
  have keptAnswered : ∀ world : World Captured, world.Answered trampoline arc status →
      during world := fun world answered => kept world answered.1.kept
  have finish : ∀ result : Except Status Unit,
      (system trampoline worker).Outline during (World.Quiet trampoline)
        (pure result : Code Captured (Except Status Unit)) fun _ => World.Quiet trampoline :=
    fun _ => ⟨fun world quiet => kept world quiet.kept, fun _ quiet => quiet⟩
  cases answer : statusToResult status with
  | error error =>
      simp only [andThen, answer]
      refine ⟨keptAnswered, fun _ => World.Quiet trampoline, fun _ => World.stable_quiet, ?_,
        fun _ => finish (.error error)⟩
      intro world _ next answered performed
      have uninstalled := answered.2
      simp only [answer] at uninstalled
      cases performed
      exact World.quiet_dropHandler answered.1 uninstalled
  | ok success =>
      simp only [andThen, answer]
      refine ⟨keptAnswered, fun _ => World.Quiet trampoline, fun _ => World.stable_quiet, ?_,
        fun _ => finish (.ok ())⟩
      intro world _ next answered performed
      have unfailed := answered.2
      simp only [answer] at unfailed
      cases performed
      exact World.quiet_pushHandler answered.1 unfailed

theorem stable_destroyed :
    (system trampoline worker).Stable fun world : World Captured =>
      world.Quiet trampoline ∧ world.destroyed = true := by
  apply World.stable_of_frame
  · intro world holds
    exact holds.1.kept
  · intro world heap runs holds kept
    exact ⟨⟨kept, holds.1.noLocals⟩, holds.2⟩

theorem outline_destroy
    (kept : ∀ world : World Captured, world.Quiet trampoline → during world) :
    (system trampoline worker).Outline during (World.Quiet trampoline)
      (calling (perform (.ucpWorkerDestroy worker.handle)))
      fun _ world => world.Quiet trampoline ∧ world.destroyed = true := by
  refine ⟨kept, fun _ world => world.Quiet trampoline ∧ world.destroyed = true,
    fun _ => stable_destroyed, ?_, fun _ => ?_⟩
  · intro world answer next quiet performed
    have performed : world.perform trampoline
      (.ffi (.ucpWorkerDestroy worker.handle)) answer = some next := performed
    refine ⟨World.quiet_ffi (by rintro _ _ ⟨⟩) quiet performed, ?_⟩
    cases performed
    rfl
  · exact ⟨fun world holds => kept world holds.1, fun _ holds => holds⟩

theorem awaitFlush_leaves (request : Request) :
    (worker.awaitFlush request).EveryCall World.Leaves := by
  unfold Worker.awaitFlush
  refine EveryCall.forRounds ?_ (everyCall_done _ _) _
  refine EveryCall.bind ?_ fun result => ?_
  · apply WorkerWorld.everyCall_checkFinished
    rintro handle _ _ ⟨⟩
  · match result with
    | .ok true => exact everyCall_done _ _
    | .ok false => exact ⟨by rintro _ _ ⟨⟩, fun _ => trivial⟩
    | .error error => exact everyCall_done _ _

/-- The flush of a dropped worker changes no handler; the fields follow when UCX's
worker is gone. -/
theorem outline_dropWorker
    (kept : ∀ world : World Captured, world.Quiet trampoline → during world) :
    (system trampoline worker).Outline during (World.Quiet trampoline) (dropWorker worker)
      fun _ => World.Quiet trampoline := by
  have flushed : (system trampoline worker).Outline during
      (World.Quiet trampoline) (calling worker.drop : Code Captured Unit)
      fun _ world => world.Quiet trampoline ∧ world.destroyed = true := by
    refine outline_leaving (by rintro _ _ ⟨⟩) kept fun _ => ?_
    refine outline_leaving (by rintro _ _ ⟨⟩) kept fun (ptr : Word) => ?_
    rcases resultEq : statusPtrToResult ptr with error | _ | request
    · simp only [andThen, resultEq]
      exact outline_destroy kept
    · simp only [andThen, resultEq]
      exact outline_destroy kept
    · simp only [andThen, resultEq]
      change (system trampoline worker).Outline during (World.Quiet trampoline)
        (embed Effect.ffi (fun _ answer => answer) (worker.awaitFlush request >>= fun _ =>
          request.drop >>= fun _ => perform (.ucpWorkerDestroy worker.handle))) _
      rw [embed_bind]
      refine (outline_calling (awaitFlush_leaves request) kept).bind fun _ => ?_
      obtain ⟨_ | handle⟩ := request
      · exact outline_destroy kept
      · exact outline_leaving (by rintro _ _ ⟨⟩) kept fun _ => outline_destroy kept
  refine flushed.bind fun _ => ?_
  refine ⟨fun world holds => kept world holds.1, fun _ => World.Quiet trampoline,
    fun _ => World.stable_quiet, ?_, fun _ => ⟨kept, fun _ quiet => quiet⟩⟩
  intro world _ next holds performed
  exact World.quiet_dropFields holds.1 holds.2 performed

end Outlines

/-- The operation that is running is a registration. -/
def registering (config : Config (World Captured) (Op Captured) (Effect Captured) Effect.Reply
    Op.Result) : Bool :=
  config.running.any fun running => running.1.isRegistration

/-- Until `ucp_worker_destroy` has returned, every handler that UCX ever stored is in
memory and in the vector of the worker, or is owned by the registration that is still
running.  One whose registration failed is not stored, and is freed when the
registration returns. -/
structure Retained (trampoline : NonNull) (config : Config (World Captured) (Op Captured)
    (Effect Captured) Effect.Reply Op.Result) : Prop where
  installed_alive : config.state.destroyed = false →
    ∀ arc ∈ config.state.installed, config.state.Alive arc
  installed_retained : config.state.destroyed = false → ∀ arc ∈ config.state.installed,
    arc ∈ config.state.amHandlers ∨ registering config ∧ arc ∈ config.state.locals
  stored_installed : ∀ entry ∈ config.state.stored, entry.cb = trampoline.val →
    ∃ arc ∈ config.state.installed, arc.address = entry.arg
  table_stored : ∀ id entry, config.state.table id = some entry → entry ∈ config.state.stored
  failed_uninstalled : ∀ arc ∈ config.state.failed, arc ∉ config.state.installed
  failed_freed : ∀ arc ∈ config.state.failed, config.state.Alive arc →
    registering config ∧ arc ∈ config.state.locals
  runs_found : ∀ run ∈ config.state.trampolineRuns, run.found.isSome = true

/-- What holds while an operation is running. -/
def during (trampoline : NonNull) (op : Op Captured) (world : World Captured) : Prop :=
  world.Kept trampoline ∧ (op.isRegistration = false → world.locals = [])

theorem retained_of_holds {trampoline : NonNull} {config : Config (World Captured)
      (Op Captured) (Effect Captured) Effect.Reply Op.Result}
    (holds : config.Holds (World.Quiet trampoline) (during trampoline)) :
    Retained trampoline config := by
  obtain ⟨kept, owner⟩ : config.state.Kept trampoline ∧
      ∀ arc ∈ config.state.locals, registering config = true := by
    obtain ⟨world, _ | running⟩ := config
    · obtain ⟨kept, noLocals⟩ := holds
      refine ⟨kept, fun arc held => ?_⟩
      change arc ∈ world.locals at held
      rw [noLocals] at held
      cases held
    · obtain ⟨kept, noLocals⟩ := holds
      refine ⟨kept, fun arc held => ?_⟩
      change running.1.isRegistration = true
      by_contra other
      change arc ∈ world.locals at held
      rw [noLocals (Bool.eq_false_iff.mpr other)] at held
      cases held
  constructor
  case installed_alive =>
    intro intact arc installed
    exact kept.owned_alive arc (kept.installed_owned intact arc installed)
  case installed_retained =>
    intro intact arc installed
    rcases kept.installed_owned intact arc installed with held | retained
    · exact .inr ⟨owner arc held, held⟩
    · exact .inl retained
  case stored_installed => exact kept.stored_installed
  case table_stored => exact kept.table_stored
  case failed_uninstalled => exact kept.failed_apart
  case failed_freed =>
    intro arc failed alive
    have held := kept.failed_local arc failed alive
    exact ⟨owner arc held, held⟩
  case runs_found => exact kept.found

theorem start_quiet {trampoline : NonNull} {world next : World Captured} {op : Op Captured}
    (quiet : world.Quiet trampoline) (started : op.start trampoline world = some next) :
    next.Quiet trampoline := by
  obtain ⟨_, started⟩ := Option.ite_none_left_eq_some.mp started
  cases op with
  | amRegister amParam =>
      obtain ⟨_, started⟩ := Option.ite_none_left_eq_some.mp started
      cases started
      exact quiet
  | drop =>
      cases started
      exact ⟨{ quiet.kept with }, quiet.noLocals⟩
  | _ =>
      cases started
      exact quiet

theorem entryOf_cb_ne {trampoline : NonNull} {param : UcpAmHandlerParam}
    (other : param.cb ≠ trampoline.val) : (entryOf param).cb ≠ trampoline.val := by
  change (if _ then param.cb else 0) ≠ _
  split_ifs
  · exact other
  · exact trampoline.property.symm

theorem verified (trampoline : NonNull) (worker : Worker) :
    (system trampoline worker).Verified (fun world : World Captured => world.Quiet trampoline)
      (during trampoline) := by
  refine ⟨World.stable_quiet, fun op => ?_⟩
  have kept : ∀ world : World Captured, world.Quiet trampoline → during trampoline op world :=
    fun world quiet => ⟨quiet.kept, fun _ => quiet.noLocals⟩
  have begins : ∀ {world next : World Captured}, world.Quiet trampoline →
      op.start trampoline world = some next → next.Quiet trampoline := start_quiet
  cases op with
  | amRegisterHandler id flags callback captured =>
      refine ⟨World.Quiet trampoline, World.stable_quiet, begins, ?_⟩
      apply outline_amRegisterHandler
      intro world holds
      exact ⟨holds, by rintro ⟨⟩⟩
  | amRegister amParam =>
      by_cases raw : amParam.handle.cb = trampoline.val
      · -- such a call cannot be written
        have stable : (system trampoline worker).Stable fun _ : World Captured => False := by
          intro world message next impossible
          exact impossible.elim
        refine ⟨fun _ => False, stable, ?_, ?_⟩
        · intro world next _ started
          obtain ⟨_, started⟩ := Option.ite_none_left_eq_some.mp started
          exact (Option.ite_none_left_eq_some.mp started).1 raw
        · exact ⟨fun _ => False.elim, fun _ _ => False, fun _ => stable,
            fun _ _ _ => False.elim, fun _ => ⟨fun _ => False.elim, fun _ => False.elim⟩⟩
      · exact ⟨World.Quiet trampoline, World.stable_quiet, begins,
          outline_setting (entryOf_cb_ne raw) kept⟩
  | amUnregister id =>
      refine ⟨World.Quiet trampoline, World.stable_quiet, begins, outline_setting ?_ kept⟩
      exact entryOf_cb_ne trampoline.property.symm
  | progress =>
      refine ⟨World.Quiet trampoline, World.stable_quiet, begins, outline_calling ?_ kept⟩
      exact ⟨by rintro _ _ ⟨⟩, fun _ => trivial⟩
  | drop =>
      refine ⟨World.Quiet trampoline, World.stable_quiet, begins, ?_⟩
      exact outline_dropWorker kept

/-- In every run of registrations, raw registrations, removals, progress and the drop
of the worker, with messages delivered between any two steps and whatever UCX answers,
handlers outlive their uses. -/
theorem handlers_outlive_uses (trampoline : NonNull) (worker : Worker)
    (run : List (Label (Op Captured) Message (Effect Captured) Effect.Reply)) :
    EveryStep (system trampoline worker).step (fun _ _ next => Retained trampoline next)
      (.idle World.initial) run := by
  have every := (verified trampoline worker).everyStep (World.initial_quiet trampoline) run
  exact every.mono fun holds => retained_of_holds holds

/-- Answers to the effects of a registration that UCX accepts. -/
def accepting : (effect : Effect Unit) → Option effect.Reply
  | .newHandler _ _ => some ⟨0, 0x40⟩
  | .ffi (.ucpWorkerSetAmRecvHandler _ _) => some .ok
  | .pushHandler _ => some ()
  | _ => none

-- a message after the registration, and one after the removal of the handler
example :
    ((runFrom (system ⟨1, by decide⟩ ⟨⟨2⟩, ⟨0⟩⟩).step (.idle World.initial)
      [.start (.amRegisterHandler 7 ⟨0⟩ (fun _ _ captured => (.returned (.ok ()), captured)) ()),
        .answer accepting, .answer accepting, .answer accepting, .finish,
        .occur ⟨⟨1, 0x40⟩, .null 0, .null 0⟩,
        .start (.amUnregister 7), .answer accepting, .finish,
        .occur ⟨⟨1, 0x40⟩, .null 0, .null 0⟩]).map fun config =>
          (config.state.table 7, config.state.amHandlers, config.state.trampolineRuns)) =
      some (none, [⟨0, 0x40⟩], [⟨0x40, some 0⟩, ⟨0x40, some 0⟩]) := by
  rfl

end HandlerRegistration

end UcxRs
