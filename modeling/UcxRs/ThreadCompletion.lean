import UcxRs.LockedThreads
import Mathlib.Logic.Hydra
import Mathlib.Data.Multiset.Range

/-!
# Threads behind one mutex run to completion

Laws about threads that unlock only what they locked and make only calls that can come
back.  Only one state is stuck: as long as some thread is in a method, a thread can go on
with its own, whether or not a panic has poisoned the mutex, unless the holder of the
mutex is about to lock it again.  That thread never goes on and never gives the mutex
back.  And no run goes on without end: every step of a method leaves less of it, so a run
that never stops starts methods again and again.
-/

namespace LockedThreads

open Interaction
open TransitionRuns (EveryStep Reachable everyStep_of_invariant)

variable {Call Method : Type} {Answer : Call → Type}

/-- The label starts a method; the other labels go on with one. -/
def Label.isStart : Label Answer Method → Bool
  | .start _ _ => true
  | _ => false

/-- The library can come back from every call. -/
def Answerable {Result : Type} (code : Code Answer Result) : Prop :=
  code.EveryCall fun action => Nonempty (Reply Answer action)

theorem answerable_locked {Result : Type} {program : Program Call Answer Result}
    (every : program.EveryCall fun request => Nonempty (Answer request)) :
    Answerable (Code.locked program) :=
  Code.everyCall_locked ⟨false⟩ (fun _ => ⟨()⟩) every

theorem answerable_lockedUnwinding {Result : Type}
    {program : Program Call Answer (UnwindingMutex.Completion Result)}
    (every : program.EveryCall fun request => Nonempty (Answer request)) :
    Answerable (Code.lockedUnwinding program) :=
  Code.everyCall_lockedUnwinding ⟨false⟩ (fun _ => ⟨()⟩) every

/-- Code that locks and unlocks in turn, whatever it calls. -/
abbrev Balanced {Result : Type} (held : Bool) (code : Code Answer Result) : Prop :=
  Code.Guarded (fun _ => False) (fun _ => False) held false code

/-- Guarded code is balanced. -/
theorem balanced_of_guarded {Result : Type} {needs bare : Call → Prop} {held : Bool}
    {code : Code Answer Result} (guarded : Code.Guarded needs bare held false code) :
    Balanced held code := by
  induction code generalizing held with
  | done result => exact guarded
  | issue action resume ih =>
      cases action with
      | lock => exact ⟨guarded.1, fun poisoned => ih poisoned (guarded.2 poisoned)⟩
      | unlock unwinding => exact ⟨guarded.1, ih () guarded.2⟩
      | call request => exact ⟨False.elim, fun answer => ih answer (guarded.2 answer)⟩

/-- Code that unlocks what it has locked and nothing else.  Code that locks a mutex which it
holds gets no further, so nothing is asked of what comes after that. -/
def UnlocksOwn {Result : Type} : Bool → Code Answer Result → Prop
  | held, .done _ => held = false
  | held, .issue .lock resume => held = false → ∀ poisoned, UnlocksOwn true (resume poisoned)
  | held, .issue (.unlock _) resume => held = true ∧ UnlocksOwn false (resume ())
  | held, .issue (.call _) resume => ∀ answer, UnlocksOwn held (resume answer)

theorem unlocksOwn_of_balanced {Result : Type} {held : Bool} {code : Code Answer Result}
    (balanced : Balanced held code) : UnlocksOwn held code := by
  induction code generalizing held with
  | done result => exact balanced
  | issue action resume ih =>
      cases action with
      | lock => exact fun _ poisoned => ih poisoned (balanced.2 poisoned)
      | unlock unwinding => exact ⟨balanced.1, ih () balanced.2⟩
      | call request => exact fun answer => ih answer (balanced.2 answer)

/-- Code that is balanced by itself may be run under the mutex: it stops where it locks. -/
theorem UnlocksOwn.bind_of_balanced {Result Value : Type} {code : Code Answer Result}
    {next : Result → Code Answer Value} (balanced : Balanced false code)
    (after : ∀ result, UnlocksOwn true (next result)) : UnlocksOwn true (code >>= next) := by
  induction code with
  | done result => exact after result
  | issue action resume ih =>
      cases action with
      | lock => rintro ⟨⟩
      | unlock unwinding => cases balanced.1
      | call request => exact fun answer => ih answer (balanced.2 answer)

def Thread.UnlocksOwn (held : Bool) : Thread Answer Method → Prop
  | .idle => held = false
  | .running _ rest => LockedThreads.UnlocksOwn held rest
  | .inside _ _ resume => ∀ answer, LockedThreads.UnlocksOwn held (resume answer)

namespace World

variable {body : Method → Code Answer Unit} {world next : World Answer Method}
  {label : Label Answer Method}

/-- The library can come back from every call that is left. -/
abbrev Answerable (world : World Answer Method) : Prop :=
  world.EveryAction fun _ action => Nonempty (Reply Answer action)

/-- Every thread locks and unlocks in turn. -/
abbrev Balanced (world : World Answer Method) : Prop :=
  world.Guarded (fun _ => False) fun _ _ => False

/-- Every thread unlocks only what it has locked. -/
def UnlocksOwn (world : World Answer Method) : Prop :=
  ∀ thread, (world.threads thread).UnlocksOwn (world.holds thread)

/-- The thread is about to lock the mutex, which it holds. -/
structure Relocks (world : World Answer Method) (thread : Nat) : Prop where
  holds : world.holder = some thread
  locks : ∃ method resume, world.threads thread = .running method (.issue .lock resume)

theorem Balanced.unlocksOwn (balanced : world.Balanced) : world.UnlocksOwn := by
  intro thread
  have here := balanced thread
  cases state : world.threads thread with
  | idle =>
      rw [state] at here
      exact here
  | running method rest =>
      rw [state] at here
      exact unlocksOwn_of_balanced here
  | inside method request resume =>
      rw [state] at here
      exact fun answer => unlocksOwn_of_balanced (here.2 answer)

theorem Balanced.not_relocks (balanced : world.Balanced) (thread : Nat) :
    ¬ world.Relocks thread := by
  rintro ⟨holds, method, resume, found⟩
  have here := balanced thread
  rw [found] at here
  have unheld : world.holds thread = false := here.1
  cases unheld.symm.trans (decide_eq_true holds)

theorem unlocksOwn_initial (poisoned : Bool) :
    (initial poisoned : World Answer Method).UnlocksOwn :=
  fun _ => rfl

theorem UnlocksOwn.step (unlocks : world.UnlocksOwn)
    (bodies : ∀ method, LockedThreads.UnlocksOwn false (body method))
    (stepEq : LockedThreads.step body world label = some next) : next.UnlocksOwn := by
  cases moves_of_step stepEq with
  | @start thread method found =>
      have here := unlocks thread
      rw [found] at here
      refine forall_threads_move unlocks ?_ rfl fun _ _ => rfl
      change world.holds thread = false at here
      rw [holds_move, here]
      exact bodies method
  | @acquire thread method resume found free =>
      have here := unlocks thread
      rw [found] at here
      have unheld : world.holds thread = false := by simp [World.holds, free]
      refine forall_threads_move unlocks ?_ rfl fun other different => ?_
      · simpa [World.holds, Thread.UnlocksOwn] using here unheld world.poisoned
      · simpa [World.holds, free] using different.symm
  | @release thread method unwinding resume found =>
      have here := unlocks thread
      rw [found] at here
      have wasHeld : world.holder = some thread := of_decide_eq_true here.1
      refine forall_threads_move unlocks ?_ rfl fun other different => ?_
      · exact here.2
      · simpa [World.holds, wasHeld] using different.symm
  | @enter thread method request resume found =>
      have here := unlocks thread
      rw [found] at here
      refine forall_threads_move unlocks ?_ rfl fun _ _ => rfl
      exact here
  | @leave thread method request resume answer answers found answered =>
      have here := unlocks thread
      rw [found] at here
      refine forall_threads_move unlocks ?_ rfl fun _ _ => rfl
      exact here answer
  | @finish thread method result found =>
      have here := unlocks thread
      rw [found] at here
      refine forall_threads_move unlocks ?_ rfl fun _ _ => rfl
      exact here

/-- No step takes a thread past the lock, and no other thread unlocks its mutex. -/
theorem Relocks.step {thread : Nat} (relocks : world.Relocks thread)
    (unlocks : world.UnlocksOwn)
    (stepEq : LockedThreads.step body world label = some next) : next.Relocks thread := by
  obtain ⟨holds, method, resume, found⟩ := relocks
  have stays : ∀ mover moved, mover ≠ thread →
      (world.move mover moved).threads thread = .running method (.issue .lock resume) := by
    intro mover moved different
    rw [move_threads_of_ne different.symm]
    exact found
  cases moves_of_step stepEq with
  | @start mover _ idle =>
      refine ⟨holds, method, resume, stays mover _ ?_⟩
      rintro rfl
      cases found.symm.trans idle
  | @acquire mover _ _ _ free => cases holds.symm.trans free
  | @release mover _ _ _ running =>
      have unlocking := unlocks mover
      rw [running] at unlocking
      have same := holds.symm.trans (of_decide_eq_true unlocking.1)
      cases Option.some.inj same
      cases found.symm.trans running
  | @enter mover _ _ _ running =>
      refine ⟨holds, method, resume, stays mover _ ?_⟩
      rintro rfl
      cases found.symm.trans running
  | @leave mover _ _ _ _ _ inside _ =>
      refine ⟨holds, method, resume, stays mover _ ?_⟩
      rintro rfl
      cases found.symm.trans inside
  | @finish mover _ _ running =>
      refine ⟨holds, method, resume, stays mover _ ?_⟩
      rintro rfl
      cases found.symm.trans running

/-- A thread can take a step of its method. -/
def CanContinue (body : Method → Code Answer Unit) (world : World Answer Method) : Prop :=
  ∃ label next, label.isStart = false ∧ LockedThreads.step body world label = some next

theorem canContinue_of_done {thread : Nat} {method : Method}
    (found : world.threads thread = .running method (.done ())) :
    world.CanContinue body :=
  ⟨.finish thread, world.move thread .idle, rfl, by simp only [LockedThreads.step, found]⟩

theorem canContinue_of_lock {thread : Nat} {method : Method}
    {resume : Bool → Code Answer Unit}
    (found : world.threads thread = .running method (.issue .lock resume))
    (free : world.holder = none) : world.CanContinue body :=
  ⟨.acquire thread, _, rfl, by simp only [LockedThreads.step, found, free]; rfl⟩

theorem canContinue_of_unlock {thread : Nat} {method : Method} {unwinding : Bool}
    {resume : Unit → Code Answer Unit}
    (found : world.threads thread = .running method (.issue (.unlock unwinding) resume)) :
    world.CanContinue body :=
  ⟨.release thread, _, rfl, by simp only [LockedThreads.step, found]; rfl⟩

theorem canContinue_of_call {thread : Nat} {method : Method} {request : Call}
    {resume : Answer request → Code Answer Unit}
    (found : world.threads thread = .running method (.issue (.call request) resume)) :
    world.CanContinue body :=
  ⟨.enter thread, _, rfl, by simp only [LockedThreads.step, found]; rfl⟩

open Classical in
/-- The library comes back from the call of a thread. -/
theorem canContinue_of_inside {thread : Nat} {method : Method} {request : Call}
    {resume : Answer request → Code Answer Unit}
    (found : world.threads thread = .inside method request resume)
    (answer : Answer request) : world.CanContinue body := by
  have anyAnswer : ∃ answers : (request : Call) → Option (Answer request),
      answers request = some answer := by
    refine ⟨fun other => if same : request = other then some (same ▸ answer) else none, ?_⟩
    exact dif_pos rfl
  obtain ⟨answers, answered⟩ := anyAnswer
  exact ⟨.leave thread answers, _, rfl, by
    simp only [LockedThreads.step, found, answered]; rfl⟩

/-- The thread that holds the mutex can go on, unless it locks the mutex again. -/
theorem canContinue_or_relocks_of_holder {thread : Nat} (unlocks : world.UnlocksOwn)
    (answerable : world.Answerable) (held : world.holder = some thread) :
    world.CanContinue body ∨ world.Relocks thread := by
  have unlocksHere := unlocks thread
  have comesBack := answerable thread
  have holding : world.holds thread = true := decide_eq_true held
  rw [holding] at unlocksHere
  cases state : world.threads thread with
  | idle =>
      rw [state] at unlocksHere
      cases unlocksHere
  | inside method request resume =>
      rw [state] at comesBack
      exact .inl (canContinue_of_inside state comesBack.1.some)
  | running method rest =>
      rw [state] at unlocksHere
      cases rest with
      | done result => cases unlocksHere
      | issue action resume =>
          cases action with
          | lock => exact .inr ⟨held, method, resume, state⟩
          | unlock unwinding => exact .inl (canContinue_of_unlock state)
          | call request => exact .inl (canContinue_of_call state)

/-- While the mutex is free, any thread in a method can go on. -/
theorem canContinue_of_free {thread : Nat} (answerable : world.Answerable)
    (free : world.holder = none) (busy : world.threads thread ≠ .idle) :
    world.CanContinue body := by
  have comesBack := answerable thread
  cases state : world.threads thread with
  | idle => exact absurd state busy
  | inside method request resume =>
      rw [state] at comesBack
      exact canContinue_of_inside state comesBack.1.some
  | running method rest =>
      cases rest with
      | done result => exact canContinue_of_done state
      | issue action resume =>
          cases action with
          | lock => exact canContinue_of_lock state free
          | unlock unwinding => exact canContinue_of_unlock state
          | call request => exact canContinue_of_call state

/-- As long as some thread is in a method, some thread can go on, unless one locks the mutex
again. -/
theorem canContinue_or_relocks {thread : Nat} (unlocks : world.UnlocksOwn)
    (answerable : world.Answerable) (busy : world.threads thread ≠ .idle) :
    world.CanContinue body ∨ ∃ holder, world.Relocks holder := by
  cases held : world.holder with
  | none => exact .inl (canContinue_of_free answerable held busy)
  | some holder =>
      exact (canContinue_or_relocks_of_holder unlocks answerable held).imp_right
        fun relocks => ⟨holder, relocks⟩

end World

/-- A step of its method takes a thread from the second state to the first. -/
inductive Advances : Thread Answer Method → Thread Answer Method → Prop where
  | acquire (method : Method) (resume : Bool → Code Answer Unit) (poisoned : Bool) :
      Advances (.running method (resume poisoned)) (.running method (.issue .lock resume))
  | release (method : Method) (unwinding : Bool) (resume : Unit → Code Answer Unit) :
      Advances (.running method (resume ()))
        (.running method (.issue (.unlock unwinding) resume))
  | enter (method : Method) (request : Call) (resume : Answer request → Code Answer Unit) :
      Advances (.inside method request resume)
        (.running method (.issue (.call request) resume))
  | leave (method : Method) (request : Call) (resume : Answer request → Code Answer Unit)
      (answer : Answer request) :
      Advances (.running method (resume answer)) (.inside method request resume)
  | finish (method : Method) (result : Unit) :
      Advances .idle (.running method (.done result))

theorem acc_idle : Acc Advances (.idle : Thread Answer Method) :=
  ⟨_, fun _ advances => by cases advances⟩

/-- By induction on what is left of the method. -/
theorem acc_running (method : Method) (rest : Code Answer Unit) :
    Acc Advances (.running method rest : Thread Answer Method) := by
  induction rest with
  | done result =>
      constructor
      rintro _ ⟨⟩
      exact acc_idle
  | issue action resume ih =>
      constructor
      intro later advances
      cases advances with
      | acquire _ _ poisoned => exact ih poisoned
      | release _ unwinding => exact ih ()
      | enter _ request =>
          constructor
          rintro _ (_ | _ | _ | ⟨_, _, _, answer⟩)
          exact ih answer

theorem wellFounded_advances :
    WellFounded (Advances : Thread Answer Method → Thread Answer Method → Prop) := by
  refine ⟨fun thread => ?_⟩
  cases thread with
  | idle => exact acc_idle
  | running method rest => exact acc_running method rest
  | inside method request resume =>
      constructor
      rintro _ (_ | _ | _ | ⟨_, _, _, answer⟩)
      exact acc_running method (resume answer)

namespace World

variable {body : Method → Code Answer Unit} {world next : World Answer Method}
  {label : Label Answer Method}

/-- The threads from a bound on are idle. -/
def IdleFrom (bound : Nat) (world : World Answer Method) : Prop :=
  ∀ thread, bound ≤ thread → world.threads thread = .idle

def threadsBelow (bound : Nat) (world : World Answer Method) :
    Multiset (Thread Answer Method) :=
  (Multiset.range bound).map world.threads

/-- A label that goes on with a method moves one thread, which advances. -/
theorem advances_of_step (goesOn : label.isStart = false)
    (stepEq : LockedThreads.step body world label = some next) :
    ∃ thread moved, Advances moved (world.threads thread) ∧
      next.threads = Function.update world.threads thread moved := by
  cases moves_of_step stepEq with
  | start found => cases goesOn
  | acquire found free => exact ⟨_, _, found ▸ .acquire _ _ _, rfl⟩
  | release found => exact ⟨_, _, found ▸ .release _ _ _, rfl⟩
  | enter found => exact ⟨_, _, found ▸ .enter _ _ _, rfl⟩
  | leave found answered => exact ⟨_, _, found ▸ .leave _ _ _ _, rfl⟩
  | finish found => exact ⟨_, _, found ▸ .finish _ _, rfl⟩

theorem busy_of_advances {thread : Nat} {moved : Thread Answer Method}
    (advances : Advances moved (world.threads thread)) : world.threads thread ≠ .idle := by
  intro idle
  rw [idle] at advances
  cases advances

/-- Going on leaves the idle threads idle. -/
theorem idleFrom_of_continues {bound : Nat} (idle : world.IdleFrom bound)
    (goesOn : label.isStart = false)
    (stepEq : LockedThreads.step body world label = some next) : next.IdleFrom bound := by
  obtain ⟨thread, moved, advances, threads⟩ := advances_of_step goesOn stepEq
  intro other beyond
  have busy := busy_of_advances advances
  have different : other ≠ thread := by
    rintro rfl
    exact busy (idle other beyond)
  rw [threads, Function.update_of_ne different]
  exact idle other beyond

/-- A step makes at most one more thread busy. -/
theorem idleFrom_of_step {bound : Nat} (idle : world.IdleFrom bound)
    (stepEq : LockedThreads.step body world label = some next) :
    ∃ later, next.IdleFrom later := by
  cases started : label.isStart with
  | false => exact ⟨bound, idleFrom_of_continues idle started stepEq⟩
  | true =>
      cases moves_of_step stepEq with
      | @start thread method found =>
          refine ⟨max bound (thread + 1), fun other beyond => ?_⟩
          have different : other ≠ thread := by omega
          rw [move_threads_of_ne different]
          exact idle other (by omega)
      | _ => cases started

/-- Replacing one member by a smaller one is a cut of the multiset. -/
theorem cutExpand_map_update {State : Type} {smaller : State → State → Prop}
    {states : Nat → State} {bound index : Nat} {state : State} (below : index < bound)
    (isSmaller : smaller state (states index)) :
    Relation.CutExpand smaller
      ((Multiset.range bound).map (Function.update states index state))
      ((Multiset.range bound).map states) := by
  have member : index ∈ Multiset.range bound := Multiset.mem_range.mpr below
  obtain ⟨others, split⟩ := Multiset.exists_cons_of_mem member
  have distinct : index ∉ others := by
    have nodup := Multiset.nodup_range bound
    rw [split] at nodup
    exact (Multiset.nodup_cons.mp nodup).1
  have unchanged : others.map (Function.update states index state) = others.map states := by
    refine Multiset.map_congr rfl fun other among => ?_
    refine Function.update_of_ne ?_ ..
    rintro rfl
    exact distinct among
  rw [split, Multiset.map_cons, Multiset.map_cons, Function.update_self, unchanged,
    ← Multiset.singleton_add, ← Multiset.singleton_add]
  exact Relation.cutExpand_single_add isSmaller _

theorem cutExpand_of_continues {bound : Nat} (idle : world.IdleFrom bound)
    (goesOn : label.isStart = false)
    (stepEq : LockedThreads.step body world label = some next) :
    Relation.CutExpand Advances (next.threadsBelow bound) (world.threadsBelow bound) := by
  obtain ⟨thread, moved, advances, threads⟩ := advances_of_step goesOn stepEq
  have busy := busy_of_advances advances
  have below : thread < bound := by
    by_contra beyond
    exact busy (idle thread (by omega))
  unfold threadsBelow
  rw [threads]
  exact cutExpand_map_update below advances

end World

section Laws

variable {body : Method → Code Answer Unit}

theorem unlocksOwn_of_reachable (bodies : ∀ method, UnlocksOwn false (body method))
    {poisoned : Bool} {world : World Answer Method}
    (reached : Reachable (step body) (World.initial poisoned) world) : world.UnlocksOwn :=
  reached.invariant (fun unlocks stepEq => unlocks.step bodies stepEq)
    (World.unlocksOwn_initial poisoned)

theorem answerable_of_reachable (bodies : ∀ method, Answerable (body method))
    {poisoned : Bool} {world : World Answer Method}
    (reached : Reachable (step body) (World.initial poisoned) world) : world.Answerable :=
  reached.invariant (fun answerable stepEq => answerable.step bodies stepEq)
    (World.everyAction_initial poisoned)

/-- No reachable state in which a thread is in a method is stuck, unless a thread locks the
mutex again. -/
theorem canContinue_or_relocks_of_reachable
    (unlocks : ∀ method, UnlocksOwn false (body method))
    (answerable : ∀ method, Answerable (body method)) {poisoned : Bool}
    {world : World Answer Method}
    (reached : Reachable (step body) (World.initial poisoned) world) {thread : Nat}
    (busy : world.threads thread ≠ .idle) :
    world.CanContinue body ∨ ∃ holder, world.Relocks holder :=
  World.canContinue_or_relocks (unlocksOwn_of_reachable unlocks reached)
    (answerable_of_reachable answerable reached) busy

/-- Threads that lock and unlock in turn are never stuck. -/
theorem canContinue_of_reachable (balanced : ∀ method, Balanced false (body method))
    (answerable : ∀ method, Answerable (body method)) {poisoned : Bool}
    {world : World Answer Method}
    (reached : Reachable (step body) (World.initial poisoned) world) {thread : Nat}
    (busy : world.threads thread ≠ .idle) : world.CanContinue body := by
  have inTurn : world.Balanced :=
    reached.invariant (fun guarded stepEq => guarded.step balanced stepEq)
      (World.guarded_initial poisoned)
  refine (World.canContinue_or_relocks inTurn.unlocksOwn
    (answerable_of_reachable answerable reached) busy).resolve_right ?_
  rintro ⟨holder, relocks⟩
  exact inTurn.not_relocks holder relocks

/-- A thread that locks the mutex again does so for ever. -/
theorem relocks_for_ever (bodies : ∀ method, UnlocksOwn false (body method))
    {poisoned : Bool} {world : World Answer Method}
    (reached : Reachable (step body) (World.initial poisoned) world) {thread : Nat}
    (relocks : world.Relocks thread) (run : List (Label Answer Method)) :
    EveryStep (step body) (fun _ _ after => after.Relocks thread) world run := by
  refine @everyStep_of_invariant _ _ (step body)
    (fun world => world.UnlocksOwn ∧ world.Relocks thread) _ ?_ (fun holds => holds.2) _
    ⟨unlocksOwn_of_reachable bodies reached, relocks⟩ run
  rintro before label after ⟨unlocks, relocking⟩ stepEq
  exact ⟨unlocks.step bodies stepEq, relocking.step unlocks stepEq⟩

/-- A run without end starts methods again and again. -/
theorem starts_again {worlds : Nat → World Answer Method} {labels : Nat → Label Answer Method}
    {poisoned : Bool} (begins : worlds 0 = World.initial poisoned)
    (steps : ∀ index, step body (worlds index) (labels index) = some (worlds (index + 1)))
    (time : Nat) : ∃ later, time ≤ later ∧ (labels later).isStart = true := by
  by_contra never
  have goesOn : ∀ index, (labels (time + index)).isStart = false := by
    intro index
    by_contra starts
    exact never ⟨time + index, by omega, Bool.eq_true_of_not_eq_false starts⟩
  have finite : ∀ index, ∃ bound, (worlds index).IdleFrom bound := by
    intro index
    induction index with
    | zero => exact ⟨0, fun thread _ => by rw [begins]; rfl⟩
    | succ index ih =>
        obtain ⟨bound, idle⟩ := ih
        exact World.idleFrom_of_step idle (steps index)
  obtain ⟨bound, idleNow⟩ := finite time
  have idle : ∀ index, (worlds (time + index)).IdleFrom bound := by
    intro index
    induction index with
    | zero => exact idleNow
    | succ index ih => exact World.idleFrom_of_continues ih (goesOn index) (steps _)
  have descends : ∀ index, Relation.CutExpand Advances
      ((worlds (time + (index + 1))).threadsBelow bound)
      ((worlds (time + index)).threadsBelow bound) :=
    fun index => World.cutExpand_of_continues (idle index) (goesOn index) (steps _)
  have noChain := wellFounded_iff_isEmpty_descending_chain.mp
    (@wellFounded_advances _ Method Answer).cutExpand
  exact noChain.false ⟨fun index => (worlds (time + index)).threadsBelow bound, descends⟩

end Laws

end LockedThreads
