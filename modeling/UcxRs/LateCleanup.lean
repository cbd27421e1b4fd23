import UcxRs.WorkerCalls

/-!
# Cleanup after the end of the worker

Endpoints and remote keys may be cleaned up after their worker was destroyed.
The drop of an endpoint, `Ep::destroy` and `Ep::disconnect_nb` consult the
liveness flag and stay silent then; `Ep::close` and the drop of a remote key do
not.  No late cleanup reaches UCX in a run exactly when every close and every
drop of a non-null key comes before the destruction of its worker.
-/

namespace UcxRs

namespace LateCleanup

open Interaction (Environment Execution Program)
open Interaction.Program
open TransitionRuns
open WorkerWorld

/-- A cleanup passes UCX no handle but that of the value it consumes, and none
after the value's worker was destroyed. -/
def Punctual (older : List Event) (operation : Operation) (call : Call) : Prop :=
  operation.kind = .cleanup → ∀ handle ∈ passedHandles call,
    operation.handle = some handle ∧ destroyed operation.owner.alive older = false

/-- Every cleanup call of a log is punctual. -/
def NoLateCleanup : List Event → Prop
  | [] => True
  | event :: older => Punctual older event.operation event.call ∧ NoLateCleanup older

instance (older : List Event) (operation : Operation) (call : Call) :
    Decidable (Punctual older operation call) :=
  inferInstanceAs (Decidable (operation.kind = .cleanup → ∀ handle ∈ passedHandles call,
    operation.handle = some handle ∧ destroyed operation.owner.alive older = false))

def decideNoLateCleanup : (log : List Event) → Decidable (NoLateCleanup log)
  | [] => .isTrue trivial
  | event :: older =>
      @instDecidableAnd (Punctual older event.operation event.call) (NoLateCleanup older) _
        (decideNoLateCleanup older)

instance (log : List Event) : Decidable (NoLateCleanup log) :=
  decideNoLateCleanup log

/-- The step does not close an endpoint, or drop a non-null key, of a worker
that was destroyed. -/
def CleansUpInTime (world : World) : Label → Prop
  | .cleanUp index (.close _ _) _ => ∀ owned, world.eps[index]? = some owned →
      destroyed owned.owner.alive world.log = false
  | .dropRkey index _ => ∀ owned, world.rkeys[index]? = some owned →
      owned.value.handle.address ≠ 0 → destroyed owned.owner.alive world.log = false
  | _ => True

/-- What is stored in the flags is `false`, and the worker's drop stores it
before it destroys the worker. -/
structure FlagsLowered (log : List Event) : Prop where
  stores : ∀ event ∈ log, ∀ flag value, event.call = .storeAlive flag value → value = false
  destroys : ∀ flag, destroyed flag log = true →
    ∃ event ∈ log, event.call = .storeAlive flag false

theorem storedIn_eq_some {flag : AliveFlag} {call : Call} {value : Bool}
    (stored : storedIn flag call = some value) : call = .storeAlive flag value := by
  unfold storedIn at stored
  split at stored
  · obtain ⟨rfl, valueEq⟩ := Option.ite_none_right_eq_some.mp stored
    cases valueEq
    rfl
  · cases stored

theorem flagAfter_of_stored {flag : AliveFlag} {calls : List Call}
    (stores : ∀ call ∈ calls, ∀ stored value, call = .storeAlive stored value → value = false)
    (stored : .storeAlive flag false ∈ calls) : flagAfter flag calls = false := by
  unfold flagAfter
  cases found : calls.findSome? (storedIn flag) with
  | none =>
      have absent := List.findSome?_eq_none_iff.mp found _ stored
      rw [storedIn, if_pos rfl] at absent
      cases absent
  | some value =>
      obtain ⟨call, member, newest⟩ := List.exists_of_findSome?_eq_some found
      exact stores call member flag value (storedIn_eq_some newest)

/-- A worker that was destroyed has a false flag. -/
theorem FlagsLowered.flag_false {log : List Event} (lowered : FlagsLowered log)
    {flag : AliveFlag} (gone : destroyed flag log = true) :
    flagAfter flag (log.map Event.call) = false := by
  obtain ⟨event, member, storeEq⟩ := lowered.destroys flag gone
  refine flagAfter_of_stored ?_ ?_
  · intro call inCalls
    obtain ⟨event, member, rfl⟩ := List.mem_map.mp inCalls
    exact lowered.stores event member
  · exact List.mem_map.mpr ⟨event, member, storeEq⟩

variable {world next : World} {label : Label}

theorem destroyed_record (flag : AliveFlag) (operation : Operation) (calls : List Call) :
    destroyed flag (world.record operation calls).log = true ↔
      (operation.kind = .workerDrop ∧ operation.owner.alive = flag ∧
        .ucpWorkerDestroy operation.owner.handle ∈ calls) ∨
      destroyed flag world.log = true := by
  unfold destroyed
  simp only [List.any_eq_true, mem_record_log, Bool.and_eq_true, beq_iff_eq]
  constructor
  · rintro ⟨event, ⟨call, member, rfl⟩ | member, ⟨kind, owner⟩, call⟩
    · exact Or.inl ⟨kind, owner, call ▸ member⟩
    · exact Or.inr ⟨event, member, ⟨kind, owner⟩, call⟩
  · rintro (⟨kind, owner, member⟩ | ⟨event, member, holds⟩)
    · exact ⟨⟨operation, _⟩, Or.inl ⟨_, member, rfl⟩, ⟨kind, owner⟩, rfl⟩
    · exact ⟨event, Or.inr member, holds⟩

/-- Recording calls that store nothing, and that do not end a worker. -/
theorem FlagsLowered.record {operation : Operation} {calls : List Call}
    (lowered : FlagsLowered world.log) (kind : operation.kind ≠ .workerDrop)
    (storeless : ∀ call ∈ calls, Storeless call) :
    FlagsLowered (world.record operation calls).log := by
  constructor
  · intro event member flag value storeEq
    rcases mem_record_log.mp member with ⟨call, made, rfl⟩ | member
    · exact absurd storeEq (storeless call made flag value)
    · exact lowered.stores event member flag value storeEq
  · intro flag gone
    rcases (destroyed_record flag operation calls).mp gone with ⟨drop, _⟩ | before
    · exact absurd drop kind
    · obtain ⟨event, member, storeEq⟩ := lowered.destroys flag before
      exact ⟨event, mem_record_log.mpr (Or.inr member), storeEq⟩

theorem FlagsLowered.dropWorker {worker : Worker} {oracle : Environment Call Answer}
    (lowered : FlagsLowered world.log) :
    FlagsLowered (world.record ⟨.workerDrop, worker, none⟩
      (world.run oracle worker.drop).calls).log := by
  constructor
  · intro event member flag value storeEq
    rcases mem_record_log.mp member with ⟨call, made, rfl⟩ | member
    · exact ((dropWorker_calls worker).of_mem_calls made flag value storeEq).2
    · exact lowered.stores event member flag value storeEq
  · intro flag gone
    rcases (destroyed_record flag _ _).mp gone with ⟨_, rfl, _⟩ | before
    · exact ⟨_, mem_record_log.mpr (Or.inl
        ⟨_, dropWorker_stores_first world worker oracle, rfl⟩), rfl⟩
    · obtain ⟨event, member, storeEq⟩ := lowered.destroys flag before
      exact ⟨event, mem_record_log.mpr (Or.inr member), storeEq⟩

theorem FlagsLowered.step (lowered : FlagsLowered world.log)
    (stepEq : step world label = some next) : FlagsLowered next.log := by
  obtain ⟨operation, calls, logEq, made⟩ := step_log stepEq
  rw [logEq]
  cases label with
  | createWorker handle =>
      cases made
      exact lowered
  | newEp index params oracle =>
      obtain ⟨kind, storeless⟩ := made
      exact lowered.record (by simp [kind]) storeless
  | createEp index params oracle =>
      obtain ⟨kind, storeless⟩ := made
      exact lowered.record (by simp [kind]) storeless
  | unpack index rkeyBuffer oracle =>
      obtain ⟨kind, storeless⟩ := made
      exact lowered.record (by simp [kind]) storeless
  | post posting oracle =>
      obtain ⟨kind, storeless⟩ := made
      exact lowered.record (by simp [kind]) storeless
  | freeGuard index oracle =>
      obtain ⟨posted, _, rfl, rfl⟩ := made
      exact lowered.record (by simp) fun call member =>
        ((freeGuard_calls posted.value).of_mem_calls member).2
  | dropGuard index oracle =>
      obtain ⟨posted, _, rfl, rfl⟩ := made
      exact lowered.record (by simp) fun call member =>
        ((dropGuard_calls posted.value).of_mem_calls member).2
  | cleanUp index cleanup oracle =>
      obtain ⟨owned, program, _, resolved, rfl, rfl⟩ := made
      exact lowered.record (by simp) fun call member =>
        ((cleanup_calls resolved).of_mem_calls member).2
  | dropRkey index oracle =>
      obtain ⟨owned, _, rfl, rfl⟩ := made
      exact lowered.record (by simp) fun call member =>
        ((dropRkey_calls owned.value).of_mem_calls member).2
  | dropWorker index oracle =>
      obtain ⟨worker, _, rfl, rfl⟩ := made
      exact lowered.dropWorker

/-- Every endpoint carries the flag of the worker it was created on. -/
def SharesFlag (world : World) : Prop :=
  ∀ owned ∈ world.eps, owned.value.workerAlive = owned.owner.alive

theorem SharesFlag.create {worker : Worker} {oracle : Environment Call Answer}
    {params : Ep.Params} (shares : SharesFlag world) :
    SharesFlag (world.create worker oracle (Ep.new params worker)) := by
  intro owned member
  rcases mem_addEp worker member with before | ⟨ep, created, rfl⟩
  · exact shares owned before
  · exact newEp_workerAlive created

theorem SharesFlag.step (shares : SharesFlag world)
    (stepEq : step world label = some next) : SharesFlag next := by
  cases moves_of_step stepEq with
  | createWorker handle => exact shares
  | newEp params oracle found => exact shares.create
  | createEp params oracle found => exact shares.create
  | unpack rkeyBuffer oracle found =>
      intro owned member
      rw [World.unpack, addRkey_eps] at member
      exact shares owned member
  | post oracle resolved =>
      intro owned member
      rw [World.post, addGuard_eps] at member
      exact shares owned member
  | freeGuard oracle found => exact shares
  | dropGuard oracle found => exact shares
  | cleanUp oracle found resolved =>
      exact fun owned member => shares owned (List.mem_of_mem_eraseIdx member)
  | dropRkey oracle found => exact shares
  | dropWorker oracle found unborrowed => exact shares

section Late

variable {oracle : Environment Call Answer} {ep : Ep}
  (lowered : FlagsLowered world.log) (gone : destroyed ep.workerAlive world.log = true)

include lowered gone

theorem load_false {Result : Type} {resume : Bool → Ffi Result} :
    (world.run oracle (.issue (.loadAlive ep.workerAlive) resume)).calls =
      .loadAlive ep.workerAlive ::
        ((resume false).execute (sharing world.log oracle) [.loadAlive ep.workerAlive]).calls := by
  have answered : sharing world.log oracle [] (.loadAlive ep.workerAlive) = some false := by
    change some (flagAfter ep.workerAlive ([] ++ world.log.map Event.call)) = some false
    rw [List.nil_append, lowered.flag_false gone]
  unfold World.run
  rw [execute_issue_some answered]
  rfl

/-- The drop of an endpoint is silent once its worker is gone. -/
theorem late_drop_silent :
    (world.run oracle ep.drop).calls = [.loadAlive ep.workerAlive] :=
  load_false lowered gone

theorem late_destroy_silent :
    (world.run oracle ep.destroy).calls = [.loadAlive ep.workerAlive] :=
  load_false lowered gone

theorem late_disconnect_silent :
    (world.run oracle ((fun _ => ()) <$> ep.disconnectNb)).calls =
      [.loadAlive ep.workerAlive] :=
  load_false lowered gone

end Late

section Record

variable {operation : Operation}

theorem punctual_record (calls : List Call) (call : Call) :
    Punctual (world.record operation calls).log operation call ↔
      Punctual world.log operation call := by
  refine forall_congr' fun kind => forall_congr' fun handle => forall_congr' fun _ => ?_
  have same : destroyed operation.owner.alive (world.record operation calls).log =
      destroyed operation.owner.alive world.log := by
    rw [Bool.eq_iff_iff, destroyed_record]
    constructor
    · rintro (⟨drop, _⟩ | before)
      · rw [kind] at drop
        cases drop
      · exact before
    · exact Or.inr
  rw [same]

/-- A log with the calls of one more operation. -/
theorem noLateCleanup_record (calls : List Call) :
    NoLateCleanup (world.record operation calls).log ↔
      (∀ call ∈ calls, Punctual world.log operation call) ∧ NoLateCleanup world.log := by
  induction calls generalizing world with
  | nil => simp [World.record]
  | cons call calls ih =>
      have split : (world.record operation (call :: calls)).log =
          ((world.record operation [call]).record operation calls).log := by
        simp [World.record]
      have one : NoLateCleanup (world.record operation [call]).log ↔
          Punctual world.log operation call ∧ NoLateCleanup world.log := Iff.rfl
      rw [split, ih, one, List.forall_mem_cons]
      simp only [punctual_record]
      tauto

theorem noLateCleanup_record_of_other {calls : List Call} (kind : operation.kind ≠ .cleanup)
    (punctual : NoLateCleanup world.log) :
    NoLateCleanup (world.record operation calls).log :=
  (noLateCleanup_record calls).mpr
    ⟨fun _ _ cleanup => absurd cleanup kind, punctual⟩

end Record

theorem punctual_of_cleanupCall {log : List Event} {owner : Worker} {own : ChildHandle}
    {call : Call} (cleanup : CleanupCall own call) (alive : destroyed owner.alive log = false) :
    Punctual log ⟨.cleanup, owner, some own⟩ call :=
  fun _ handle passed => ⟨congrArg some (cleanup.1 handle passed).symm, alive⟩

/-- A cleanup that asks the flag first is punctual, late or not. -/
theorem punctual_of_asking {owner : Worker} {ep : Ep} {program : Ffi Unit}
    {oracle : Environment Call Answer}
    (cleanup : program.EveryCall (CleanupCall (.ep ep.handle)))
    (silent : destroyed owner.alive world.log = true →
      (world.run oracle program).calls = [.loadAlive ep.workerAlive]) :
    ∀ call ∈ (world.run oracle program).calls,
      Punctual world.log ⟨.cleanup, owner, some (.ep ep.handle)⟩ call := by
  intro call member
  cases gone : destroyed owner.alive world.log with
  | false => exact punctual_of_cleanupCall (cleanup.of_mem_calls member) gone
  | true =>
      rw [silent gone] at member
      cases List.mem_singleton.mp member
      rintro _ handle ⟨⟩

/-- A close passes the endpoint's handle whatever the flag says. -/
theorem close_punctual_iff {owner worker : Worker} {ep : Ep} {flags : BitVec 32}
    {oracle : Environment Call Answer} :
    (∀ call ∈ (world.run oracle ((fun _ => ()) <$> ep.close worker flags)).calls,
        Punctual world.log ⟨.cleanup, owner, some (.ep ep.handle)⟩ call) ↔
      destroyed owner.alive world.log = false := by
  constructor
  · intro punctual
    have closes := punctual _ (mem_calls_issue (Call.ucpEpCloseNbx ep.handle _) _)
    exact (closes rfl (.ep ep.handle) (List.mem_singleton_self _)).2
  · intro alive call member
    have calls : ((fun _ => ()) <$> ep.close worker flags).EveryCall
        (CleanupCall (.ep ep.handle)) := by
      rw [map_eq_pure_bind]
      exact (closeEp_calls ep worker flags).bind fun _ => everyCall_done _ _
    exact punctual_of_cleanupCall (calls.of_mem_calls member) alive

/-- The drop of a key passes a handle that is not null. -/
theorem dropRkey_punctual_iff {owner : Worker} {rkey : RemoteKey}
    {oracle : Environment Call Answer} :
    (∀ call ∈ (world.run oracle rkey.drop).calls,
        Punctual world.log ⟨.cleanup, owner, some (.rkey rkey.handle)⟩ call) ↔
      (rkey.handle.address ≠ 0 → destroyed owner.alive world.log = false) := by
  constructor
  · intro punctual nonNull
    have drops : rkey.drop = .issue (.ucpRkeyDestroy rkey.handle) .done := if_pos nonNull
    rw [drops] at punctual
    have destroys := punctual _ (mem_calls_issue (Call.ucpRkeyDestroy rkey.handle) _)
    exact (destroys rfl (.rkey rkey.handle) (List.mem_singleton_self _)).2
  · intro alive call member
    by_cases nonNull : rkey.handle.address ≠ 0
    · exact punctual_of_cleanupCall ((dropRkey_calls rkey).of_mem_calls member) (alive nonNull)
    · have silent : rkey.drop = .done () := if_neg nonNull
      rw [silent] at member
      exact absurd member List.not_mem_nil

/-- What holds along a run without late cleanups. -/
structure Orderly (world : World) : Prop where
  lowered : FlagsLowered world.log
  shares : SharesFlag world
  punctual : NoLateCleanup world.log

/-- One step keeps the log free of late cleanups exactly when it cleans up in
time. -/
theorem step_punctual_iff (orderly : Orderly world)
    (stepEq : step world label = some next) :
    NoLateCleanup next.log ↔ CleansUpInTime world label := by
  obtain ⟨operation, calls, logEq, made⟩ := step_log stepEq
  rw [logEq]
  have punctual := orderly.punctual
  have shares : ∀ {index : Nat} {owned : Owned Ep}, world.eps[index]? = some owned →
      owned.value.workerAlive = owned.owner.alive :=
    fun found => orderly.shares _ (List.mem_of_getElem? found)
  cases label with
  | createWorker handle =>
      cases made
      exact iff_of_true punctual trivial
  | newEp index params oracle =>
      exact iff_of_true (noLateCleanup_record_of_other (by simp [made.1]) punctual) trivial
  | createEp index params oracle =>
      exact iff_of_true (noLateCleanup_record_of_other (by simp [made.1]) punctual) trivial
  | unpack index rkeyBuffer oracle =>
      exact iff_of_true (noLateCleanup_record_of_other (by simp [made.1]) punctual) trivial
  | post posting oracle =>
      exact iff_of_true (noLateCleanup_record_of_other (by simp [made.1]) punctual) trivial
  | freeGuard index oracle =>
      obtain ⟨posted, _, rfl, rfl⟩ := made
      exact iff_of_true (noLateCleanup_record_of_other (by simp) punctual) trivial
  | dropGuard index oracle =>
      obtain ⟨posted, _, rfl, rfl⟩ := made
      exact iff_of_true (noLateCleanup_record_of_other (by simp) punctual) trivial
  | cleanUp index cleanup oracle =>
      obtain ⟨owned, program, found, resolved, rfl, rfl⟩ := made
      rw [noLateCleanup_record, and_iff_left punctual]
      have asks : ∀ {program : Ffi Unit},
          program.EveryCall (CleanupCall (.ep owned.value.handle)) →
          (destroyed owned.value.workerAlive world.log = true →
            (world.run oracle program).calls = [.loadAlive owned.value.workerAlive]) →
          ∀ call ∈ (world.run oracle program).calls, Punctual world.log
            ⟨.cleanup, owned.owner, some (.ep owned.value.handle)⟩ call := by
        intro program cleanup silent
        rw [shares found] at silent
        exact punctual_of_asking cleanup fun gone => by rw [shares found, silent gone]
      have cleansUp := cleanup_calls resolved
      cases cleanup with
      | drop =>
          cases resolved
          exact iff_of_true (asks cleansUp (late_drop_silent orderly.lowered)) trivial
      | close worker flags =>
          obtain ⟨worker, _, resolved⟩ := Option.bind_eq_some_iff.mp resolved
          cases resolved
          rw [close_punctual_iff]
          constructor
          · intro alive other otherFound
            cases found.symm.trans otherFound
            exact alive
          · intro inTime
            exact inTime owned found
      | destroy =>
          cases resolved
          exact iff_of_true (asks cleansUp (late_destroy_silent orderly.lowered)) trivial
      | disconnectNb =>
          cases resolved
          exact iff_of_true (asks cleansUp (late_disconnect_silent orderly.lowered)) trivial
  | dropRkey index oracle =>
      obtain ⟨owned, found, rfl, rfl⟩ := made
      rw [noLateCleanup_record, and_iff_left punctual, dropRkey_punctual_iff]
      constructor
      · intro alive other otherFound
        cases found.symm.trans otherFound
        exact alive
      · intro inTime
        exact inTime owned found
  | dropWorker index oracle =>
      obtain ⟨worker, _, rfl, rfl⟩ := made
      exact iff_of_true (noLateCleanup_record_of_other (by simp) punctual) trivial

/-- No late cleanup reaches UCX in any state of a run exactly when every close
and every drop of a non-null key in it is in time. -/
theorem no_late_cleanup_iff (run : List Label) :
    EveryStep step (fun _ _ next => NoLateCleanup next.log) World.initial run ↔
      EveryStep step (fun world label _ => CleansUpInTime world label) World.initial run := by
  have initial : Orderly World.initial := by
    refine ⟨⟨?_, ?_⟩, ?_, trivial⟩
    · intro event member
      exact absurd member List.not_mem_nil
    · intro flag gone
      cases gone
    · intro owned member
      exact absurd member List.not_mem_nil
  refine @everyStep_congr_of_guarded_invariant _ _ step Orderly _ _ ?_ ?_ _ initial run
  · intro world label next orderly punctual stepEq
    exact ⟨orderly.lowered.step stepEq, orderly.shares.step stepEq, punctual⟩
  · intro world label next orderly stepEq
    exact step_punctual_iff orderly stepEq

/-- UCX hands out one address for whatever is created and completes the rest
at once. -/
def obliging (address : Word) : Environment Call Answer :=
  fun _ call =>
    match call with
    | .ucpEpCreate _ _ => some (.ok, ⟨address⟩)
    | .ucpEpRkeyUnpack _ _ => some (.ok, ⟨address⟩)
    | .ucpWorkerFlushNbx _ _ => some 0
    | .ucpWorkerDestroy _ => some ()
    | .ucpRkeyDestroy _ => some ()
    | _ => none

/-- A worker, an endpoint and an unpacked key; the worker is dropped first. -/
def keyOutlivesWorker : List Label :=
  [.createWorker ⟨0x1000⟩,
    .createEp 0 Ep.ParamsBuilder.new.build.1 (obliging 0x2000),
    .unpack 0 [0, 0, 0, 0] (obliging 0x3000),
    .dropWorker 0 (obliging 0),
    .dropRkey 0 (obliging 0)]

/-- The key's handle reaches UCX after `ucp_worker_destroy`. -/
theorem key_outlives_worker :
    ¬ EveryStep step (fun _ _ next => NoLateCleanup next.log) World.initial
      keyOutlivesWorker := by
  decide +kernel

end LateCleanup

end UcxRs
