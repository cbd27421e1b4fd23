import UcxRs.LockedThreads

/-!
# Waiting for a signal while holding the mutex

Some calls of the library wait: they come back only when a call that sends a signal
has been made in the meantime.  If both are made under one mutex, no thread can send
the signal while another one waits for it.  The law of this file: a thread inside a
waiting call stays inside it.
-/

namespace LockedThreads

open Interaction
open TransitionRuns (EveryStep everyStep_of_invariant_before)

variable {Call Method : Type} {Answer : Call → Type}

/-- What is bare matters only for the calls that need the mutex. -/
theorem Code.Guarded.of_bare {Result : Type} {needs bare other : Call → Prop}
    {held final : Bool} {code : Code Answer Result}
    (guarded : Code.Guarded needs bare held final code)
    (agree : ∀ request, needs request → (bare request ↔ other request)) :
    Code.Guarded needs other held final code := by
  induction code generalizing held with
  | done result => exact guarded
  | issue action resume ih =>
      cases action with
      | lock => exact ⟨guarded.1, fun poisoned => ih poisoned (guarded.2 poisoned)⟩
      | unlock unwinding => exact ⟨guarded.1, ih () guarded.2⟩
      | call request =>
          refine ⟨fun needed => ?_, fun answer => ih answer (guarded.2 answer)⟩
          exact (guarded.1 needed).trans (not_congr (agree request needed))

/-- The calls that wait for a signal and the calls that send one.  A signal ends the waits
that were entered before it; nothing remembers it for later ones. -/
structure Signalling (Call : Type) where
  waits : Call → Bool
  signals : Call → Bool

/-- The threads, and whether a signal was sent since a thread entered its call. -/
structure Waiting (Answer : Call → Type) (Method : Type) where
  world : World Answer Method
  signalled : Nat → Bool

/-- The thread that a label takes into a call, with the call. -/
def World.entering (world : World Answer Method) : Label Answer Method → Option (Nat × Call)
  | .enter thread =>
      match world.threads thread with
      | .running _ (.issue (.call request) _) => some (thread, request)
      | _ => none
  | _ => none

theorem World.entering_eq_some {world : World Answer Method} {label : Label Answer Method}
    {thread : Nat} {request : Call} (enters : world.entering label = some (thread, request)) :
    ∃ method resume, world.threads thread = .running method (.issue (.call request) resume) := by
  unfold entering at enters
  split at enters
  · split at enters
    · rename_i found
      cases enters
      exact ⟨_, _, found⟩
    · cases enters
  · cases enters

namespace Signalling

variable (signalling : Signalling Call)

/-- The calls of either kind. -/
def Concerns (request : Call) : Prop :=
  signalling.waits request = true ∨ signalling.signals request = true

/-- The thread would come back from a waiting call without a signal. -/
def blocks (state : Waiting Answer Method) : Label Answer Method → Bool
  | .leave thread _ =>
      match state.world.threads thread with
      | .inside _ request _ => signalling.waits request && !state.signalled thread
      | _ => false
  | _ => false

/-- A thread enters its call unsignalled; a call that signals reaches all other
threads. -/
def signalledAfter (state : Waiting Answer Method) (label : Label Answer Method) :
    Nat → Bool :=
  match state.world.entering label with
  | some (thread, request) =>
      Function.update (fun other => state.signalled other || signalling.signals request)
        thread false
  | none => state.signalled

/-- The threads take their steps, but a waiting call comes back only after a signal. -/
def step (body : Method → Code Answer Unit) (state : Waiting Answer Method)
    (label : Label Answer Method) : Option (Waiting Answer Method) :=
  if signalling.blocks state label then none
  else (LockedThreads.step body state.world label).map fun next =>
    ⟨next, signalling.signalledAfter state label⟩

def initial (poisoned : Bool) : Waiting Answer Method where
  world := .initial poisoned
  signalled := fun _ => false

/-- Waits and signals are made under the mutex, and nobody was signalled while
waiting. -/
structure Unwoken (state : Waiting Answer Method) : Prop where
  guarded : state.world.Guarded signalling.Concerns fun _ _ => False
  unsignalled : ∀ thread request, state.world.InsideCall thread request →
    signalling.waits request = true → state.signalled thread = false

variable {signalling} {body : Method → Code Answer Unit}
  {state next : Waiting Answer Method} {label : Label Answer Method}

theorem unwoken_initial (poisoned : Bool) :
    signalling.Unwoken (initial poisoned : Waiting Answer Method) where
  guarded := World.guarded_initial poisoned
  unsignalled := fun _ _ _ _ => rfl

theorem step_some (stepEq : signalling.step body state label = some next) :
    signalling.blocks state label = false ∧
      LockedThreads.step body state.world label = some next.world ∧
      next.signalled = signalling.signalledAfter state label := by
  unfold step at stepEq
  split at stepEq
  · cases stepEq
  · rename_i free
    obtain ⟨world, moved, rfl⟩ := Option.map_eq_some_iff.mp stepEq
    exact ⟨by simpa using free, moved, rfl⟩

/-- The thread inside a waiting call holds the mutex. -/
theorem Unwoken.holder (unwoken : signalling.Unwoken state) {thread : Nat} {request : Call}
    (inside : state.world.InsideCall thread request)
    (waits : signalling.waits request = true) : state.world.holder = some thread := by
  obtain ⟨method, resume, found⟩ := inside
  have here := unwoken.guarded thread
  rw [found] at here
  exact of_decide_eq_true ((here.1 (.inl waits)).mpr False.elim)

/-- So no other thread is about to send a signal. -/
theorem Unwoken.not_signals (unwoken : signalling.Unwoken state) {thread sender : Nat}
    {request sent : Call} {method : Method} {resume : Answer sent → Code Answer Unit}
    (inside : state.world.InsideCall thread request)
    (waits : signalling.waits request = true)
    (sending : state.world.threads sender = .running method (.issue (.call sent) resume)) :
    signalling.signals sent = false := by
  by_contra notSilent
  have signals : signalling.signals sent = true := by simpa using notSilent
  have here := unwoken.guarded sender
  rw [sending] at here
  have held : state.world.holds sender = true := (here.1 (.inr signals)).mpr False.elim
  have same : sender = thread :=
    Option.some.inj ((of_decide_eq_true held).symm.trans (unwoken.holder inside waits))
  obtain ⟨waiting, rest, found⟩ := inside
  rw [same, found] at sending
  cases sending

/-- A step that is not blocked leaves every waiting thread inside its call. -/
theorem Unwoken.stays (unwoken : signalling.Unwoken state)
    (stepEq : signalling.step body state label = some next) {thread : Nat} {request : Call}
    (inside : state.world.InsideCall thread request)
    (waits : signalling.waits request = true) : next.world.InsideCall thread request := by
  obtain ⟨free, moved, -⟩ := step_some stepEq
  have unsignalled := unwoken.unsignalled thread request inside waits
  obtain ⟨method, resume, found⟩ := inside
  have unmoved : ∀ mover moved, mover ≠ thread →
      next.world.threads = Function.update state.world.threads mover moved →
      next.world.InsideCall thread request := by
    intro mover moved different threads
    refine ⟨method, resume, ?_⟩
    rw [threads, Function.update_of_ne different.symm]
    exact found
  generalize next.world = after at moved unmoved ⊢
  cases moves_of_step moved with
  | @start mover _ idle =>
      refine unmoved mover _ ?_ rfl
      rintro rfl
      cases found.symm.trans idle
  | @acquire mover _ _ running _ =>
      refine unmoved mover _ ?_ rfl
      rintro rfl
      cases found.symm.trans running
  | @release mover _ _ _ running =>
      refine unmoved mover _ ?_ rfl
      rintro rfl
      cases found.symm.trans running
  | @enter mover _ _ _ running =>
      refine unmoved mover _ ?_ rfl
      rintro rfl
      cases found.symm.trans running
  | @leave mover _ _ _ _ _ insideCall _ =>
      refine unmoved mover _ ?_ rfl
      rintro rfl
      simp [blocks, found, waits, unsignalled] at free
  | @finish mover _ _ running =>
      refine unmoved mover _ ?_ rfl
      rintro rfl
      cases found.symm.trans running

/-- A thread inside a call was inside it before, or has just entered it. -/
theorem insideCall_of_step {world after : World Answer Method} {label : Label Answer Method}
    (moved : LockedThreads.step body world label = some after) {thread : Nat}
    {request : Call} (inside : after.InsideCall thread request) :
    world.InsideCall thread request ∨ ∃ method resume, label = .enter thread ∧
      world.threads thread = .running method (.issue (.call request) resume) := by
  obtain ⟨method, resume, found⟩ := inside
  have unmoved : ∀ mover moved, after.threads = Function.update world.threads mover moved →
      mover ≠ thread → world.InsideCall thread request := by
    intro mover moved threads different
    rw [threads, Function.update_of_ne different.symm] at found
    exact ⟨method, resume, found⟩
  have same : ∀ mover moved, after.threads = Function.update world.threads mover moved →
      mover = thread → moved = .inside method request resume := by
    rintro mover moved threads rfl
    rw [threads, Function.update_self] at found
    exact found
  generalize threadsEq : after.threads = threads at unmoved same
  cases moves_of_step moved with
  | @start mover _ _ =>
      refine .inl (unmoved mover _ threadsEq.symm fun isMover => ?_)
      cases same mover _ threadsEq.symm isMover
  | @acquire mover _ _ _ _ =>
      refine .inl (unmoved mover _ threadsEq.symm fun isMover => ?_)
      cases same mover _ threadsEq.symm isMover
  | @release mover _ _ _ _ =>
      refine .inl (unmoved mover _ threadsEq.symm fun isMover => ?_)
      cases same mover _ threadsEq.symm isMover
  | @enter mover entered call rest running =>
      by_cases isMover : mover = thread
      · cases same mover _ threadsEq.symm isMover
        exact .inr ⟨method, resume, congrArg _ isMover, isMover ▸ running⟩
      · exact .inl (unmoved mover _ threadsEq.symm isMover)
  | @leave mover _ _ _ _ _ _ _ =>
      refine .inl (unmoved mover _ threadsEq.symm fun isMover => ?_)
      cases same mover _ threadsEq.symm isMover
  | @finish mover _ _ _ =>
      refine .inl (unmoved mover _ threadsEq.symm fun isMover => ?_)
      cases same mover _ threadsEq.symm isMover

/-- Nobody is signalled while waiting. -/
theorem Unwoken.signalledAfter (unwoken : signalling.Unwoken state) {thread : Nat}
    {request : Call} (inside : state.world.InsideCall thread request)
    (waits : signalling.waits request = true) (label : Label Answer Method) :
    signalling.signalledAfter state label thread = false := by
  have unsignalled := unwoken.unsignalled thread request inside waits
  unfold Signalling.signalledAfter
  cases enters : state.world.entering label with
  | none => exact unsignalled
  | some entered =>
      obtain ⟨sender, sent⟩ := entered
      obtain ⟨method, resume, sending⟩ := World.entering_eq_some enters
      change Function.update (fun other => state.signalled other || signalling.signals sent)
        sender false thread = false
      by_cases same : thread = sender
      · rw [same, Function.update_self]
      · rw [Function.update_of_ne same, unsignalled,
          unwoken.not_signals inside waits sending]
        rfl

/-- A step keeps the waiting threads unsignalled. -/
theorem Unwoken.step (unwoken : signalling.Unwoken state)
    (bodies : ∀ method,
      Code.Guarded signalling.Concerns (fun _ => False) false false (body method))
    (stepEq : signalling.step body state label = some next) : signalling.Unwoken next := by
  obtain ⟨-, moved, signalled⟩ := step_some stepEq
  refine ⟨unwoken.guarded.step bodies moved, fun thread request inside waits => ?_⟩
  rw [signalled]
  rcases insideCall_of_step moved inside with before | ⟨method, resume, rfl, running⟩
  · exact unwoken.signalledAfter before waits label
  · have enters : state.world.entering (.enter thread) = some (thread, request) := by
      simp only [World.entering, running]
    unfold Signalling.signalledAfter
    rw [enters]
    exact Function.update_self ..

/-- If waits and signals are made under the mutex, no step of any run takes a thread out
of a waiting call, and the mutex stays with it. -/
theorem never_woken
    (bodies : ∀ method,
      Code.Guarded signalling.Concerns (fun _ => False) false false (body method))
    (poisoned : Bool) (run : List (Label Answer Method)) :
    EveryStep (signalling.step body)
      (fun before _ after => ∀ thread request, before.world.InsideCall thread request →
        signalling.waits request = true →
          after.world.InsideCall thread request ∧ after.world.holder = some thread)
      (initial poisoned) run := by
  refine @everyStep_of_invariant_before _ _ _ signalling.Unwoken _ ?_ ?_ _
    (unwoken_initial poisoned) run
  · intro state label next unwoken stepEq
    exact unwoken.step bodies stepEq
  · intro state label next unwoken stepEq thread request inside waits
    have stays := unwoken.stays stepEq inside waits
    exact ⟨stays, (unwoken.step bodies stepEq).holder stays waits⟩

end Signalling

end LockedThreads
