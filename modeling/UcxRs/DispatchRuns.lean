import UcxRs.HandlerDispatch

/-!
# Runs of handlers and their dispatch table

Where an operation on handlers stands says which events its next answer can show: a
registration between `Arc::new` and UCX's answer has a handler that no message can reach
yet, so that UCX's answer installs the closure with what it captured at first.

With that, every step of the world of pointers is the step of the table that was observed.
-/

namespace UcxRs

namespace HandlerRegistration

open DispatchTables
open HandlerQuarantine (AmMessage)
open Interaction
open Interaction.Program
open InterruptedPrograms
open TransitionRuns

variable {Captured : Type}

/-- A call that takes an id away from the closures. -/
def SetsRaw (trampoline : NonNull) (id : BitVec 32) (effect : Effect Captured) : Prop :=
  ∃ handle param, effect = .ffi (.ucpWorkerSetAmRecvHandler handle param) ∧
    idOf param = id ∧ (entryOf param).cb ≠ trampoline.val

/-- What the drop of a worker does. -/
def DropEffect (effect : Effect Captured) : Prop :=
  (∃ call, effect = .ffi call ∧ World.Leaves call) ∨ effect = .dropFields

/-- The handlers are dropped after UCX's worker was destroyed. -/
def DestroysFirst {Result : Type} : Code Captured Result → Prop
  | .done _ => True
  | .issue effect resume =>
      (∃ handle, effect = .ffi (.ucpWorkerDestroy handle)) ∨
        (effect ≠ .dropFields ∧ ∀ answer, DestroysFirst (resume answer))

/-- What a registration does with UCX's answer. -/
def settle (arc : HandlerArc) : Except Status Unit → Code Captured (Except Status Unit)
  | .error error => .issue (.dropHandler arc) fun _ => .done (.error error)
  | .ok () => .issue (.pushHandler arc) fun _ => .done (.ok ())

def registration (trampoline : NonNull) (id : BitVec 32) (flags : CbFlags)
    (arc : HandlerArc) : UcpAmHandlerParam :=
  ((((HandlerParamsBuilder.new.id id).flags flags).cb trampoline.val).arg
    arc.address).build.handle

/-- A registration that has made its handler. -/
def offer (trampoline : NonNull) (worker : Worker) (id : BitVec 32) (flags : CbFlags)
    (arc : HandlerArc) : Code Captured (Except Status Unit) :=
  .issue (.ffi (.ucpWorkerSetAmRecvHandler worker.handle (registration trampoline id flags arc)))
    fun status : UcsStatus => settle arc (statusToResult status)

theorem amRegisterHandler_eq_offer (trampoline : NonNull) (worker : Worker) (id : BitVec 32)
    (flags : CbFlags) (callback : AmCallback Captured) (captured : Captured) :
    amRegisterHandler trampoline worker id flags callback captured =
      .issue (.newHandler callback captured) (offer trampoline worker id flags) := by
  refine congrArg (Program.issue (Effect.newHandler callback captured))
    (funext fun arc : HandlerArc => ?_)
  refine congrArg (Program.issue _) (funext fun status : UcsStatus => ?_)
  rcases resultEq : statusToResult status with error | success
  · simp only [andThen, resultEq]
    rfl
  · simp only [andThen, resultEq]
    rfl

theorem idOf_registration (trampoline : NonNull) (id : BitVec 32) (flags : CbFlags)
    (arc : HandlerArc) : idOf (registration trampoline id flags arc) = id := by
  have mask : (registration trampoline id flags arc).fieldMask = 15#64 := by
    change (0#64 ||| 1#64 ||| 2#64 ||| 4#64 ||| 8#64) = 15#64
    decide
  unfold idOf selected
  rw [mask, if_pos (by decide)]
  rfl

section Standing

variable (trampoline : NonNull) (worker : Worker)

inductive Registers (id : BitVec 32) (flags : CbFlags) (callback : AmCallback Captured)
    (captured : Captured) : Code Captured (Except Status Unit) → World Captured → Prop where
  | begins {world : World Captured} (quiet : world.Quiet trampoline) :
      Registers id flags callback captured
        (.issue (.newHandler callback captured) (offer trampoline worker id flags)) world
  | offers {world : World Captured} {arc : HandlerArc}
      (offering : world.Offering trampoline arc)
      (here : world.heap arc.address = some ⟨arc.allocation, callback, .new captured⟩) :
      Registers id flags callback captured (offer trampoline worker id flags arc) world
  | frees {world : World Captured} {arc : HandlerArc} (error : Status)
      (alive : world.Alive arc) (uninstalled : arc ∉ world.installed) :
      Registers id flags callback captured (settle arc (.error error)) world
  | retains {world : World Captured} (arc : HandlerArc) :
      Registers id flags callback captured (settle arc (.ok ())) world
  | ends {world : World Captured} (result : Except Status Unit) :
      Registers id flags callback captured (.done result) world

/-- No drop of the worker has begun. -/
def World.IsOpen (world : World Captured) : Prop :=
  world.dropped = false ∧ world.destroyed = false

/-- An operation with the rest of its program, in a world where it can be. -/
def StandsIn : (op : Op Captured) → Code Captured op.Result → World Captured → Prop
  | .amRegisterHandler id flags callback captured, program, world =>
      world.IsOpen ∧ Registers trampoline worker id flags callback captured program world
  | .amRegister amParam, program, world =>
      world.IsOpen ∧ program.EveryCall (SetsRaw trampoline (idOf amParam.handle))
  | .amUnregister id, program, world =>
      world.IsOpen ∧ program.EveryCall (SetsRaw trampoline id)
  | .progress, program, world =>
      world.IsOpen ∧ program.EveryCall fun effect => ∃ handle,
        effect = .ffi (.ucpWorkerProgress handle)
  | .drop, program, world =>
      world.dropped = true ∧ program.EveryCall DropEffect ∧
        (world.destroyed = true ∨ DestroysFirst program)

/-- Where the running operation stands, if there is one. -/
def Standing (config : AmConfig Captured) : Prop :=
  match config.running with
  | none => config.state.destroyed = true → config.state.dropped = true
  | some ⟨op, program⟩ => StandsIn trampoline worker op program config.state

end Standing

section Answers

variable {trampoline : NonNull} {worker : Worker} {world next : World Captured}

/-- A call that leaves UCX's table alone destroys the worker or changes nothing. -/
theorem perform_leaving {call : Call} (leaves : World.Leaves call) {answer : Answer call}
    (performed : world.perform trampoline (.ffi call) answer = some next) :
    (∃ handle, call = .ucpWorkerDestroy handle ∧ next = { world with destroyed := true }) ∨
      ((∀ handle, call ≠ .ucpWorkerDestroy handle) ∧ next = world ∧
        ∀ op : Op Captured, observedAnswer op world (.ffi call) answer = []) := by
  cases call with
  | ucpWorkerSetAmRecvHandler handle param => exact absurd rfl (leaves handle param)
  | ucpWorkerDestroy handle =>
      cases performed
      exact .inl ⟨handle, rfl, rfl⟩
  | _ =>
      cases performed
      exact .inr ⟨by rintro _ ⟨⟩, rfl, fun _ => rfl⟩

/-- An answered call of an operation that sets a raw callback, or none. -/
theorem advance_raw (tidy : world.Tidy) {id : BitVec 32} {op : Op Captured}
    {param : UcpAmHandlerParam} {status : UcsStatus} (isId : idOf param = id)
    (raw : (entryOf param).cb ≠ trampoline.val)
    (accepts : statusToResult status = .ok () → observedSet op world param status = [.remove id])
    (rejects : ∀ error, statusToResult status = .error error →
      observedSet op world param status = []) :
    world.Advance trampoline (world.setAmRecvHandler trampoline param status)
      (observedSet op world param status) := by
  rcases resultEq : statusToResult status with error | success
  · rw [rejects error resultEq]
    exact World.advance_of_rejected tidy resultEq
  · rw [accepts resultEq, ← isId]
    exact World.advance_remove tidy resultEq raw

theorem isOpen_setAmRecvHandler (isOpen : world.IsOpen) (param : UcpAmHandlerParam)
    (status : UcsStatus) : (world.setAmRecvHandler trampoline param status).IsOpen := by
  unfold World.setAmRecvHandler
  cases statusToResult status with
  | error error => exact isOpen
  | ok success =>
      dsimp only
      split_ifs <;> exact isOpen

theorem Registers.answer {id : BitVec 32} {flags : CbFlags} {callback : AmCallback Captured}
    {captured : Captured} {effect : Effect Captured}
    {resume : effect.Reply → Code Captured (Except Status Unit)}
    (registers : Registers trampoline worker id flags callback captured (.issue effect resume)
      world) (isOpen : world.IsOpen) (kept : world.Kept trampoline) (tidy : world.Tidy)
    {answer : effect.Reply} (performed : world.perform trampoline effect answer = some next) :
    next.IsOpen ∧
      Registers trampoline worker id flags callback captured (resume answer) next ∧
      world.Advance trampoline next
        (observedAnswer (.amRegisterHandler id flags callback captured) world effect answer) := by
  generalize programEq : Program.issue effect resume = program at registers
  cases registers with
  | begins quiet =>
      cases programEq
      have allocated : world.newHandler callback captured answer = some next := performed
      have offering := World.offering_newHandler quiet allocated
      have advance := World.advance_newHandler kept isOpen.2 tidy allocated
      obtain ⟨-, isNext⟩ := Option.ite_none_right_eq_some.mp allocated
      cases isNext
      exact ⟨isOpen, .offers offering (Function.update_self ..), advance⟩
  | @offers _ arc offering here =>
      cases programEq
      cases performed
      have names := @entryOf_registration trampoline id flags arc.address
      refine ⟨isOpen_setAmRecvHandler isOpen _ answer, ?_⟩
      have answered := answered_registration offering names answer
      unfold observedAnswer observedSet
      rcases resultEq : statusToResult (answer : UcsStatus) with error | success
      · have uninstalled := answered.2
        simp only [resultEq] at uninstalled ⊢
        refine ⟨?_, World.advance_of_rejected tidy resultEq⟩
        exact .frees error answered.1.arc_alive uninstalled
      · simp only [resultEq]
        refine ⟨.retains arc, ?_⟩
        have number : world.allocationAt (entryOf (registration trampoline id flags arc)).arg =
            some arc.allocation := by
          unfold registration
          rw [names]
          exact offering.registering.arc_alive
        have advance := World.advance_install kept isOpen.2 tidy resultEq names here
          offering.uninstalled
        rw [number]
        have isId := idOf_registration trampoline id flags arc
        unfold registration at isId
        rw [isId] at advance
        exact advance
  | @frees _ arc error alive uninstalled =>
      cases programEq
      cases performed
      exact ⟨isOpen, .ends _, World.advance_dropHandler kept isOpen.2 tidy alive uninstalled⟩
  | retains arc =>
      cases programEq
      cases performed
      exact ⟨isOpen, .ends _, .same tidy rfl rfl rfl rfl⟩
  | ends result => cases programEq

/-- What an answer does to an operation and to the table. -/
theorem StandsIn.answer {op : Op Captured} {effect : Effect Captured}
    {resume : effect.Reply → Code Captured op.Result}
    (stands : StandsIn trampoline worker op (.issue effect resume) world)
    (kept : world.Kept trampoline) (tidy : world.Tidy) {answer : effect.Reply}
    (performed : world.perform trampoline effect answer = some next) :
    StandsIn trampoline worker op (resume answer) next ∧
      world.Advance trampoline next (observedAnswer op world effect answer) := by
  cases op with
  | amRegisterHandler id flags callback captured =>
      obtain ⟨isOpen, registers⟩ := stands
      obtain ⟨stillOpen, position, advance⟩ := registers.answer isOpen kept tidy performed
      exact ⟨⟨stillOpen, position⟩, advance⟩
  | amRegister amParam =>
      obtain ⟨isOpen, ⟨handle, param, rfl, isId, raw⟩, rest⟩ := stands
      cases performed
      refine ⟨⟨isOpen_setAmRecvHandler isOpen param answer, rest answer⟩, ?_⟩
      exact @advance_raw _ trampoline world tidy (idOf amParam.handle) (.amRegister amParam)
        param answer isId raw
        (fun accepted => by unfold observedSet; rw [accepted])
        fun error rejected => by unfold observedSet; rw [rejected]
  | amUnregister id =>
      obtain ⟨isOpen, ⟨handle, param, rfl, isId, raw⟩, rest⟩ := stands
      cases performed
      refine ⟨⟨isOpen_setAmRecvHandler isOpen param answer, rest answer⟩, ?_⟩
      exact @advance_raw _ trampoline world tidy id (.amUnregister id) param answer isId raw
        (fun accepted => by unfold observedSet; rw [accepted])
        fun error rejected => by unfold observedSet; rw [rejected]
  | progress =>
      obtain ⟨isOpen, ⟨handle, rfl⟩, rest⟩ := stands
      cases performed
      exact ⟨⟨isOpen, rest answer⟩, .same tidy rfl rfl rfl rfl⟩
  | drop =>
      obtain ⟨dropped, ⟨isDrop, rest⟩, ends⟩ := stands
      rcases isDrop with ⟨call, rfl, leaves⟩ | rfl
      · rcases perform_leaving leaves performed with ⟨handle, rfl, rfl⟩ | ⟨other, rfl, silent⟩
        · exact ⟨⟨dropped, rest answer, .inl rfl⟩,
            .close ⟨tidy.distinct, tidy.clean⟩ rfl rfl⟩
        · refine ⟨⟨dropped, rest answer, ends.imp_right fun first => ?_⟩, ?_⟩
          · rcases first with ⟨handle, same⟩ | ⟨-, later⟩
            · exact absurd (Effect.ffi.inj same) (other handle)
            · exact later answer
          · rw [silent]
            exact .same tidy rfl rfl rfl rfl
      · have destroyed : world.destroyed = true := by
          refine ends.resolve_right fun first => ?_
          rcases first with ⟨handle, same⟩ | ⟨other, -⟩
          · cases same
          · exact other rfl
        cases performed
        refine ⟨⟨dropped, rest (), .inl destroyed⟩, ?_⟩
        refine .late (tidy.of_heap fun address live here => ?_) destroyed destroyed rfl
        exact (Option.ite_none_left_eq_some.mp here).2

end Answers

section Messages

variable {trampoline : NonNull} {worker : Worker} {world next : World Captured}
  {message : Message}

/-- A message does not reach a handler that was not installed. -/
theorem heap_of_deliver (kept : world.Kept trampoline)
    (delivered : world.deliver trampoline message = some next) {arc : HandlerArc}
    (alive : world.Alive arc) (uninstalled : arc ∉ world.installed) :
    next.heap arc.address = world.heap arc.address := by
  obtain ⟨intact, delivered⟩ := Option.ite_none_left_eq_some.mp delivered
  obtain ⟨stored, delivered⟩ := Option.ite_none_right_eq_some.mp delivered
  cases delivered
  have notDestroyed : world.destroyed = false := by simpa using intact
  unfold World.runCallback
  by_cases safe : message.entry.cb = trampoline.val
  · obtain ⟨other, member, address⟩ := kept.stored_installed _ stored safe
    have otherAlive := kept.owned_alive other (kept.installed_owned notDestroyed other member)
    have apart : arc.address ≠ message.entry.arg := by
      intro same
      have equal := alive.eq_of_address otherAlive (same.trans address.symm)
      exact uninstalled (equal ▸ member)
    rw [if_pos safe]
    cases world.heap message.entry.arg with
    | none => rfl
    | some live => exact Function.update_of_ne apart _ _
  · rw [if_neg safe]

theorem Registers.occur {id : BitVec 32} {flags : CbFlags} {callback : AmCallback Captured}
    {captured : Captured} {program : Code Captured (Except Status Unit)}
    (registers : Registers trampoline worker id flags callback captured program world)
    (kept : world.Kept trampoline)
    (delivered : world.deliver trampoline message = some next) :
    Registers trampoline worker id flags callback captured program next := by
  obtain ⟨heap, runs, isNext, allocations, -⟩ := World.deliver_frame kept delivered
  cases registers with
  | begins quiet =>
      have stable := @World.stable_quiet Captured trampoline worker
      exact .begins (stable quiet delivered)
  | @offers _ arc offering here =>
      have stable := @World.stable_offering Captured trampoline worker arc
      refine .offers (stable offering delivered) ?_
      rw [heap_of_deliver kept delivered offering.registering.arc_alive offering.uninstalled]
      exact here
  | @frees _ arc error alive uninstalled =>
      refine .frees error ((allocations arc.address).trans alive) ?_
      rw [isNext]
      exact uninstalled
  | retains arc => exact .retains arc
  | ends result => exact .ends result

theorem StandsIn.occur {op : Op Captured} {program : Code Captured op.Result}
    (stands : StandsIn trampoline worker op program world) (kept : world.Kept trampoline)
    (delivered : world.deliver trampoline message = some next) :
    StandsIn trampoline worker op program next := by
  obtain ⟨heap, runs, isNext, -, -⟩ := World.deliver_frame kept delivered
  have open_ : world.IsOpen → next.IsOpen := by
    rw [isNext]
    exact id
  cases op with
  | amRegisterHandler id flags callback captured =>
      exact ⟨open_ stands.1, stands.2.occur kept delivered⟩
  | amRegister amParam => exact ⟨open_ stands.1, stands.2⟩
  | amUnregister id => exact ⟨open_ stands.1, stands.2⟩
  | progress => exact ⟨open_ stands.1, stands.2⟩
  | drop =>
      rw [isNext]
      exact stands

end Messages

section Starts

variable {trampoline : NonNull} {worker : Worker} {world next : World Captured}

theorem DestroysFirst.of_closesWith {Value Result : Type} {program : Code Captured Value}
    {rest : Value → Code Captured Result} {handle : WorkerHandle}
    (closes : program.ClosesWith (· = .ffi (.ucpWorkerDestroy handle)))
    (keeps : program.EveryCall (· ≠ .dropFields)) : DestroysFirst (program >>= rest) := by
  induction program with
  | done value => exact closes.elim
  | issue effect resume ih =>
      rcases closes with ⟨destroys, -⟩ | ⟨-, later⟩
      · exact .inl ⟨handle, destroys⟩
      · exact .inr ⟨keeps.1, fun answer => ih answer (later answer) (keeps.2 answer)⟩

theorem drop_leaves : worker.drop.EveryCall World.Leaves := by
  rw [WorkerLifetimes.drop_eq_afterFlush]
  refine ⟨by rintro _ _ ⟨⟩, fun _ => ⟨by rintro _ _ ⟨⟩, fun _ => ?_⟩⟩
  exact WorkerLifetimes.everyCall_afterFlush (by rintro _ _ _ ⟨⟩) (by rintro _ _ ⟨⟩)
    (by rintro _ _ _ ⟨⟩) (by rintro _ _ ⟨⟩) _

theorem dropWorker_dropEffect :
    (dropWorker worker : Code Captured Unit).EveryCall DropEffect := by
  have leaves : (calling worker.drop : Code Captured Unit).EveryCall DropEffect :=
    drop_leaves.embed fun call leaves => .inl ⟨call, rfl, leaves⟩
  exact leaves.bind fun _ => ⟨.inr rfl, fun _ => trivial⟩

theorem destroysFirst_dropWorker :
    DestroysFirst (dropWorker worker : Code Captured Unit) := by
  have closes : (calling worker.drop : Code Captured Unit).ClosesWith
      (· = .ffi (.ucpWorkerDestroy worker.handle)) :=
    (WorkerLifetimes.closesWith_drop worker).embed fun _ =>
      ⟨Effect.ffi.inj, congrArg Effect.ffi⟩
  have keeps : (calling worker.drop : Code Captured Unit).EveryCall (· ≠ .dropFields) :=
    drop_leaves.embed fun _ _ => by rintro ⟨⟩
  exact .of_closesWith closes keeps

theorem start_frame {op : Op Captured} (started : op.start trampoline world = some next) :
    ∃ dropped, next = { world with dropped := dropped } := by
  obtain ⟨-, started⟩ := Option.ite_none_left_eq_some.mp started
  cases op with
  | amRegister amParam =>
      obtain ⟨-, started⟩ := Option.ite_none_left_eq_some.mp started
      cases started
      exact ⟨world.dropped, rfl⟩
  | _ =>
      cases started
      exact ⟨_, rfl⟩

/-- Where an operation stands when it starts. -/
theorem standsIn_start {op : Op Captured} (quiet : world.Quiet trampoline)
    (settled : world.destroyed = true → world.dropped = true)
    (started : op.start trampoline world = some next) :
    StandsIn trampoline worker op (op.code trampoline worker) next := by
  obtain ⟨notDropped, started⟩ := Option.ite_none_left_eq_some.mp started
  have isOpen : world.IsOpen := by
    refine ⟨by simpa using notDropped, ?_⟩
    cases ended : world.destroyed with
    | false => rfl
    | true => exact absurd (settled ended) notDropped
  cases op with
  | amRegisterHandler id flags callback captured =>
      cases started
      refine ⟨isOpen, ?_⟩
      change Registers trampoline worker id flags callback captured
        (amRegisterHandler trampoline worker id flags callback captured) world
      rw [amRegisterHandler_eq_offer]
      exact .begins quiet
  | amRegister amParam =>
      obtain ⟨raw, started⟩ := Option.ite_none_left_eq_some.mp started
      cases started
      exact ⟨isOpen, ⟨_, _, rfl, rfl, entryOf_cb_ne raw⟩, fun _ => trivial⟩
  | amUnregister id =>
      cases started
      refine ⟨isOpen, ⟨_, _, rfl, ?_, entryOf_cb_ne trampoline.property.symm⟩,
        fun _ => trivial⟩
      have selects : (UcpAmHandlerParamField.fieldId ||| UcpAmHandlerParamField.fieldCb) &&&
          UcpAmHandlerParamField.fieldId ≠ 0 := by decide
      exact if_pos selects
  | progress =>
      cases started
      exact ⟨isOpen, ⟨_, rfl⟩, fun _ => trivial⟩
  | drop =>
      cases started
      exact ⟨rfl, dropWorker_dropEffect, .inr destroysFirst_dropWorker⟩

end Starts

/-- What UCX and the memory of a worker's handlers are after the events of a run: every id
has the closure that was registered for it last, unless it was taken away since, and until
UCX's worker is destroyed every closure that was ever registered has in memory what its own
messages have made of what it captured, in their order. -/
structure Dispatches (trampoline : NonNull) (events : List (AmEvent Captured))
    (world : World Captured) : Prop where
  once : (installedNumbers events).Nodup
  current : ∀ id, world.handlerFor trampoline id = lastFor id events
  closures : world.destroyed = false → ∀ before after id number installation,
    events = before ++ .install id number installation :: after →
      world.HasClosure number (installation.after react (messagesTo number after))

section Runs

variable (trampoline : NonNull) (worker : Worker)

/-- The invariant of a run and of what was observed of it. -/
structure Dispatching (recorded : Recorded (AmConfig Captured) (AmEvent Captured)) :
    Prop where
  outlined : (system trampoline worker).Outlined (World.Quiet trampoline) (during trampoline)
    recorded.state
  standing : Standing trampoline worker recorded.state
  tidy : recorded.state.state.Tidy
  represents : recorded.state.state.Represents trampoline (replay react recorded.events)
  once : (installedNumbers recorded.events).Nodup
  known : ∀ number ∈ installedNumbers recorded.events,
    ∃ arc ∈ recorded.state.state.installed, arc.allocation = number
  closed : .close ∈ recorded.events → recorded.state.state.destroyed = true

variable {trampoline worker}

theorem Dispatching.initial :
    Dispatching trampoline worker (⟨.idle World.initial, []⟩ :
      Recorded (AmConfig Captured) (AmEvent Captured)) where
  outlined := World.initial_quiet trampoline
  standing := by rintro ⟨⟩
  tidy := ⟨by rintro _ _ _ ⟨⟩, by rintro _ _ ⟨⟩⟩
  represents := ⟨fun _ => rfl, by rintro _ _ _ ⟨⟩⟩
  once := List.nodup_nil
  known := by rintro _ ⟨⟩
  closed := by rintro ⟨⟩

theorem Dispatching.kept {recorded : Recorded (AmConfig Captured) (AmEvent Captured)}
    (dispatching : Dispatching trampoline worker recorded) :
    recorded.state.state.Kept trampoline := by
  have holds := dispatching.outlined.holds
  obtain ⟨⟨world, _ | running⟩, events⟩ := recorded
  · exact World.Quiet.kept holds
  · exact holds.1

/-- A step keeps the invariant if it does what was observed of it. -/
theorem Dispatching.advance {config next : AmConfig Captured}
    {events now : List (AmEvent Captured)}
    (dispatching : Dispatching trampoline worker ⟨config, events⟩)
    (advance : config.state.Advance trampoline next.state now)
    (outlined : (system trampoline worker).Outlined (World.Quiet trampoline)
      (during trampoline) next)
    (standing : Standing trampoline worker next) :
    Dispatching trampoline worker ⟨next, events ++ now⟩ := by
  have split : installedNumbers (events ++ now) =
      installedNumbers events ++ installedNumbers now := List.filterMap_append
  refine ⟨outlined, standing, advance.tidy, ?_, ?_, ?_, ?_⟩
  · change World.Represents trampoline (replay react (events ++ now)) next.state
    rw [replay_append]
    exact advance.represents _ dispatching.represents
  · change (installedNumbers (events ++ now)).Nodup
    rw [split]
    refine List.nodup_append.mpr ⟨dispatching.once, advance.single, ?_⟩
    rintro number before other after rfl
    obtain ⟨arc, member, same⟩ := dispatching.known number before
    exact advance.fresh number after arc member same
  · intro number member
    rw [split] at member
    rcases List.mem_append.mp member with before | after
    · obtain ⟨arc, installed, same⟩ := dispatching.known number before
      exact ⟨arc, advance.installed arc installed, same⟩
    · exact advance.known number after
  · intro member
    rcases List.mem_append.mp member with before | after
    · exact advance.destroyed (dispatching.closed before)
    · exact advance.closes after

/-- When an operation ends, the worker is destroyed only if it was dropped. -/
theorem StandsIn.settled {op : Op Captured} {program : Code Captured op.Result}
    {world : World Captured} (stands : StandsIn trampoline worker op program world)
    (destroyed : world.destroyed = true) : world.dropped = true := by
  have notOpen : world.IsOpen → world.dropped = true := by
    intro isOpen
    cases destroyed.symm.trans isOpen.2
  cases op with
  | drop => exact stands.1
  | _ => exact notOpen stands.1

/-- Every step does what is observed of it. -/
theorem Dispatching.step {recorded next : Recorded (AmConfig Captured) (AmEvent Captured)}
    {label : AmLabel Captured} (dispatching : Dispatching trampoline worker recorded)
    (wasRecorded : recording (system trampoline worker).step (observed trampoline) recorded label =
      some next) : Dispatching trampoline worker next := by
  have kept := dispatching.kept
  obtain ⟨config, events⟩ := recorded
  obtain ⟨after, stepEq, rfl⟩ := Option.map_eq_some_iff.mp wasRecorded
  have outlined := (verified trampoline worker).outlined_step dispatching.outlined stepEq
  obtain ⟨world, running⟩ := config
  cases label with
  | start op =>
      cases running with
      | some running => cases stepEq
      | none =>
          obtain ⟨started, startEq, stepEq⟩ := Option.bind_eq_some_iff.mp stepEq
          cases stepEq
          have stands : StandsIn trampoline worker op (op.code trampoline worker) started :=
            standsIn_start dispatching.outlined dispatching.standing startEq
          refine dispatching.advance ?_ outlined stands
          obtain ⟨dropped, rfl⟩ := start_frame startEq
          exact .same dispatching.tidy rfl rfl rfl rfl
  | answer reply =>
      cases running with
      | none => cases stepEq
      | some running =>
          obtain ⟨op, _ | ⟨effect, resume⟩⟩ := running
          · cases stepEq
          · obtain ⟨answer, replied, stepEq⟩ := Option.bind_eq_some_iff.mp stepEq
            obtain ⟨performed, performEq, stepEq⟩ := Option.bind_eq_some_iff.mp stepEq
            cases stepEq
            obtain ⟨stands, advance⟩ :=
              StandsIn.answer dispatching.standing kept dispatching.tidy performEq
            refine dispatching.advance ?_ outlined stands
            change World.Advance trampoline world performed
              ((reply effect).elim [] (observedAnswer op world effect))
            rw [replied]
            exact advance
  | finish =>
      obtain _ | ⟨op, value | ⟨effect, resume⟩⟩ := running
      · cases stepEq
      · cases stepEq
        refine dispatching.advance (.same dispatching.tidy rfl rfl rfl rfl) outlined ?_
        exact StandsIn.settled dispatching.standing
      · cases stepEq
  | occur message =>
      obtain ⟨occurred, occurEq, stepEq⟩ := Option.bind_eq_some_iff.mp stepEq
      cases stepEq
      refine dispatching.advance (World.advance_deliver kept dispatching.tidy occurEq)
        outlined ?_
      cases running with
      | none =>
          obtain ⟨heap, runs, rfl, -, -⟩ := World.deliver_frame kept occurEq
          exact dispatching.standing
      | some running => exact StandsIn.occur dispatching.standing kept occurEq

theorem Dispatching.dispatches {recorded : Recorded (AmConfig Captured) (AmEvent Captured)}
    (dispatching : Dispatching trampoline worker recorded) :
    Dispatches trampoline recorded.events recorded.state.state := by
  refine ⟨dispatching.once, fun id => ?_, ?_⟩
  · exact (dispatching.represents.current id).trans (current_replay _ id)
  · intro intact before after id number installation split
    have once := dispatching.once
    have open_ : .close ∉ recorded.events := by
      intro member
      cases intact.symm.trans (dispatching.closed member)
    refine dispatching.represents.closures intact number _ ?_
    rw [split] at once open_ ⊢
    refine installation_replay once fun member => ?_
    exact open_ (List.mem_append_right _ (List.mem_cons_of_mem _ member))

end Runs

/-- In every run of registrations, raw registrations, removals, progress and the drop of
the worker, with messages delivered between any two steps and whatever UCX answers, the
handlers of the worker are the dispatch table that the run's events leave behind. -/
theorem handlers_dispatch_messages (trampoline : NonNull) (worker : Worker)
    (run : List (AmLabel Captured)) :
    EveryStep (recording (system trampoline worker).step (observed trampoline))
      (fun _ _ next => Dispatches trampoline next.events next.state.state)
      ⟨.idle World.initial, []⟩ run :=
  everyStep_of_invariant Dispatching.step Dispatching.dispatches Dispatching.initial run

end HandlerRegistration

end UcxRs
