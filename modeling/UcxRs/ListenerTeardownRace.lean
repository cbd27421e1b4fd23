import UcxRs.ListenerTeardown

/-!
# Teardown races with a delivery

The strong count of a listener state reaches zero before
`ucp_listener_destroy` is called, so a callback can start, or can already have
started, on a state without owners.  The file shows such a schedule, and shows
that teardown is sound in every run that avoids the two steps leading to it:
UCX starting a callback while the count is zero, and the drop of the last owner
between the start of a callback and its increment.
-/

namespace UcxRs

namespace ListenerTeardown

open TransitionRuns

namespace Event

def isDestroy : Event → Bool
  | destroyCalled _ => true
  | _ => false

/-- The trampoline took its reference, or ran the closure. -/
def isDelivery : Event → Bool
  | tookReference _ => true
  | closureRan => true
  | _ => false

end Event

/-- No reference is taken at count zero, the state is dropped once, its
listener is destroyed once, and nothing is delivered after the drop began. -/
structure TeardownSafe (log : List Event) : Prop where
  references : ∀ strong, .tookReference strong ∈ log → 0 < strong
  drops : log.count .stateDropBegan ≤ 1
  destroys : log.countP Event.isDestroy ≤ 1
  silent : ∀ newer older, log = newer ++ .stateDropBegan :: older →
    ∀ event ∈ newer, event.isDelivery = false

/-- UCX starts no callback on a state without owners, and the last owner is not
dropped between the start of a callback and the increment it makes. -/
def DeliveryHeld (world : World) (label : Label) (_next : World) : Prop :=
  match label with
  | .startCallback _ => 0 < world.strong
  | .dropOwner => world.strong = 1 → world.progress.hasEntered = false
  | _ => True

instance (world : World) (label : Label) (next : World) :
    Decidable (DeliveryHeld world label next) :=
  match label with
  | .startCallback _ => inferInstanceAs (Decidable (0 < world.strong))
  | .dropOwner =>
      inferInstanceAs (Decidable (world.strong = 1 → world.progress.hasEntered = false))
  | .dropper => inferInstanceAs (Decidable True)
  | .progress => inferInstanceAs (Decidable True)
  | .closure _ => inferInstanceAs (Decidable True)

theorem teardownSafe_nil : TeardownSafe [] where
  references := fun _ member => absurd member List.not_mem_nil
  drops := Nat.zero_le _
  destroys := Nat.zero_le _
  silent := fun newer older split => by
    have member : Event.stateDropBegan ∈ newer ++ .stateDropBegan :: older := by simp
    rw [← split] at member
    exact absurd member List.not_mem_nil

/-- One more event keeps teardown safe when nothing is delivered after the drop
began and the drop and the destruction are the first of their kind. -/
theorem TeardownSafe.record {log : List Event} (safe : TeardownSafe log) (event : Event)
    (reference : ∀ strong, event = .tookReference strong → 0 < strong)
    (delivery : event.isDelivery = true → .stateDropBegan ∉ log)
    (firstDrop : event = .stateDropBegan → .stateDropBegan ∉ log)
    (firstDestroy : event.isDestroy = true → log.countP Event.isDestroy = 0) :
    TeardownSafe (event :: log) where
  references := by
    intro strong member
    rcases List.mem_cons.mp member with now | earlier
    · exact reference strong now.symm
    · exact safe.references strong earlier
  drops := by
    by_cases now : event = .stateDropBegan
    · have none := List.count_eq_zero.mpr (firstDrop now)
      rw [now, List.count_cons_self, none]
    · rw [List.count_cons_of_ne now]
      exact safe.drops
  destroys := by
    by_cases now : event.isDestroy = true
    · rw [List.countP_cons_of_pos now, firstDestroy now]
    · rw [List.countP_cons_of_neg now]
      exact safe.destroys
  silent := by
    intro newer older split
    cases newer with
    | nil => exact fun _ member => absurd member List.not_mem_nil
    | cons newest newer =>
        rw [List.cons_append] at split
        obtain ⟨rfl, restEq⟩ := List.cons.inj split
        intro other member
        rcases List.mem_cons.mp member with rfl | earlier
        · by_contra delivered
          apply delivery (Bool.eq_true_of_not_eq_false delivered)
          rw [restEq]
          simp
        · exact safe.silent newer older restEq other earlier

/-- The destructor has not called `ucp_listener_destroy` yet. -/
def Destructor.beforeDestroy : Destructor → Bool
  | lockHandle => true
  | callDestroy _ => true
  | _ => false

/-- The state has an owner, and its drop has not begun. -/
structure Owned (world : World) : Prop where
  positive : 0 < world.strong
  notDropped : .stateDropBegan ∉ world.log
  notDestroyed : world.log.countP Event.isDestroy = 0
  dropperIdle : world.dropper = .idle
  noDestructor : world.progress.runsDestructor = false

/-- The state has no owner and no reference, and at most one thread is in its
destructor. -/
structure Dying (world : World) : Prop where
  noReference : world.strong = 0
  threads : world.dropper = .idle ∧ world.progress = .idle ∨
    ∃ stage, (stage.beforeDestroy = true → world.log.countP Event.isDestroy = 0) ∧
      (world.dropper = .destructor stage .idle ∧ world.progress = .idle ∨
        world.dropper = .idle ∧ world.progress = .destructor stage .idle)

structure Sound (world : World) : Prop where
  safe : TeardownSafe world.log
  counted : world.strong = world.owners + world.progress.references
  phase : Owned world ∨ Dying world

theorem sound_created (callback : ConnCallback) (handle : ListenerHandle) :
    Sound (.created callback handle) where
  safe := teardownSafe_nil
  counted := rfl
  phase := Or.inl ⟨Nat.one_pos, List.not_mem_nil, rfl, rfl, rfl⟩

variable {world next : World}

/-- A destructor calls `ucp_listener_destroy` at most once and gives up no
reference of its own. -/
theorem destructorStep_spec {stage : Destructor}
    (safe : TeardownSafe world.log)
    (pending : stage.beforeDestroy = true → world.log.countP Event.isDestroy = 0) :
    TeardownSafe (world.destructorStep stage).1.log ∧
      (world.destructorStep stage).1.strong = world.strong ∧
      (world.destructorStep stage).1.owners = world.owners ∧
      (world.destructorStep stage).1.dropper = world.dropper ∧
      (world.destructorStep stage).1.progress = world.progress ∧
      (∀ after, (world.destructorStep stage).2 = some after →
        after.beforeDestroy = true →
          (world.destructorStep stage).1.log.countP Event.isDestroy = 0) := by
  cases stage with
  | lockHandle => exact ⟨safe, rfl, rfl, rfl, rfl, fun _ _ _ => pending rfl⟩
  | callDestroy handle =>
      refine ⟨?_, rfl, rfl, rfl, rfl, ?_⟩
      · exact safe.record (.destroyCalled handle) (by rintro _ ⟨⟩)
          (by rintro ⟨⟩) (by rintro ⟨⟩) (fun _ => pending rfl)
      · rintro _ ⟨⟩ ⟨⟩
  | insideDestroy handle =>
      refine ⟨safe, rfl, rfl, rfl, rfl, ?_⟩
      rintro _ ⟨⟩ ⟨⟩
  | resetHandle =>
      refine ⟨safe, rfl, rfl, rfl, rfl, ?_⟩
      rintro _ ⟨⟩ ⟨⟩
  | dropFields =>
      refine ⟨?_, rfl, rfl, rfl, rfl, by rintro _ ⟨⟩⟩
      exact safe.record .closureDropped (by rintro _ ⟨⟩) (by rintro ⟨⟩)
        (by rintro ⟨⟩) (by rintro ⟨⟩)

theorem teardownSafe_releaseArc (safe : TeardownSafe world.log) (owned : Owned world) :
    TeardownSafe world.releaseArc.log := by
  unfold World.releaseArc
  by_cases last : world.strong = 1
  · rw [if_pos last]
    exact safe.record .stateDropBegan (by rintro _ ⟨⟩) (by rintro ⟨⟩)
      (fun _ => owned.notDropped) (by rintro ⟨⟩)
  · rw [if_neg last]
    exact safe

/-- A drop of a reference that is not the last leaves the state owned. -/
theorem log_releaseArc_of_shared (shared : world.strong ≠ 1) :
    world.releaseArc.log = world.log :=
  if_neg shared

theorem countP_releaseArc :
    world.releaseArc.log.countP Event.isDestroy = world.log.countP Event.isDestroy := by
  unfold World.releaseArc
  by_cases last : world.strong = 1
  · rw [if_pos last]
    rfl
  · rw [if_neg last]

/-- The progress thread drops a reference and goes on at `resume`, with
`owners` values left outside the callback. -/
theorem sound_progress_release {resume : Thread} {owners : Nat} (sound : Sound world)
    (owned : Owned world) (plain : resume.runsDestructor = false)
    (balance : world.strong = owners + resume.references + 1)
    (lastIdle : resume.references = 0 → resume = .idle) :
    Sound { world.releaseArc with
      owners := owners
      progress := .afterRelease world.strong resume } := by
  have strongEq : world.releaseArc.strong = owners + resume.references := by
    change world.strong - 1 = _
    omega
  unfold Thread.afterRelease
  by_cases last : world.strong = 1
  · rw [if_pos last]
    have idle := lastIdle (by omega)
    subst idle
    refine ⟨teardownSafe_releaseArc sound.safe owned, strongEq, Or.inr ⟨?_, Or.inr ?_⟩⟩
    · change world.strong - 1 = 0
      omega
    · refine ⟨.lockHandle, fun _ => ?_, Or.inr ⟨owned.dropperIdle, rfl⟩⟩
      exact countP_releaseArc.trans owned.notDestroyed
  · rw [if_neg last]
    refine ⟨teardownSafe_releaseArc sound.safe owned, strongEq, Or.inl ⟨?_, ?_, ?_, ?_, plain⟩⟩
    · change 0 < world.strong - 1
      have positive := owned.positive
      omega
    · rw [log_releaseArc_of_shared last]
      exact owned.notDropped
    · exact countP_releaseArc.trans owned.notDestroyed
    · exact owned.dropperIdle

/-- In the trampoline the progress thread stands in an owned state. -/
theorem Sound.owned_of_running (sound : Sound world)
    (busy : world.progress ≠ .idle)
    (running : world.progress.runsDestructor = false) : Owned world := by
  rcases sound.phase with owned | dying
  · exact owned
  · rcases dying.threads with ⟨_, idle⟩ | ⟨stage, _, ⟨_, idle⟩ | ⟨_, dropping⟩⟩
    · exact absurd idle busy
    · exact absurd idle busy
    · rw [dropping] at running
      cases running

/-- A step of the only destructor, on either thread. -/
theorem sound_destructorStep {stage : Destructor} (sound : Sound world)
    (none : world.strong = 0)
    (pending : stage.beforeDestroy = true → world.log.countP Event.isDestroy = 0)
    (logEq : next.log = (world.destructorStep stage).1.log)
    (strongEq : next.strong = (world.destructorStep stage).1.strong)
    (ownersEq : next.owners = (world.destructorStep stage).1.owners)
    (threads :
      next.dropper = .afterStage (world.destructorStep stage).2 .idle ∧
          next.progress = .idle ∨
        next.dropper = .idle ∧
          next.progress = .afterStage (world.destructorStep stage).2 .idle) :
    Sound next := by
  obtain ⟨safe, sameStrong, sameOwners, _, _, pendingAfter⟩ :=
    destructorStep_spec sound.safe pending
  have counted := sound.counted
  have noReference : next.progress.references = 0 := by
    rcases threads with ⟨_, idle⟩ | ⟨_, goesOn⟩
    · rw [idle]
      rfl
    · rw [goesOn]
      cases (world.destructorStep stage).2 <;> rfl
  refine ⟨logEq ▸ safe, by omega, Or.inr ⟨by omega, ?_⟩⟩
  cases afterEq : (world.destructorStep stage).2 with
  | none =>
      rw [afterEq] at threads
      rcases threads with ⟨dropperEq, progressEq⟩ | ⟨dropperEq, progressEq⟩
      · exact Or.inl ⟨dropperEq, progressEq⟩
      · exact Or.inl ⟨dropperEq, progressEq⟩
  | some after =>
      rw [afterEq] at threads
      refine Or.inr ⟨after, ?_, threads⟩
      rw [logEq]
      exact pendingAfter after afterEq

theorem sound_dropOwner (sound : Sound world)
    (held : world.strong = 1 → world.progress.hasEntered = false)
    (stepEq : step world .dropOwner = some next) : Sound next := by
  obtain ⟨⟨_, hasOwner⟩, ⟨⟩⟩ := Option.ite_none_right_eq_some.mp stepEq
  have counted := sound.counted
  have owned : Owned world := by
    rcases sound.phase with owned | dying
    · exact owned
    · have none := dying.noReference
      omega
  have safe := teardownSafe_releaseArc sound.safe owned
  have balance : world.strong - 1 = world.owners - 1 + world.progress.references := by
    omega
  unfold Thread.afterRelease
  by_cases last : world.strong = 1
  · rw [if_pos last]
    refine ⟨safe, balance, Or.inr ⟨?_, Or.inr ⟨.lockHandle, fun _ => ?_, Or.inl ⟨rfl, ?_⟩⟩⟩⟩
    · change world.strong - 1 = 0
      omega
    · exact countP_releaseArc.trans owned.notDestroyed
    · -- without a reference the progress thread is idle or has just entered
      have noReference : world.progress.references = 0 := by omega
      have running := owned.noDestructor
      have notEntered := held last
      change world.progress = .idle
      cases progressEq : world.progress with
      | idle => rfl
      | entered request =>
          rw [progressEq] at notEntered
          cases notEntered
      | destructor stage resume =>
          rw [progressEq] at running
          cases running
      | _ =>
          rw [progressEq] at noReference
          cases noReference
  · rw [if_neg last]
    refine ⟨safe, balance, Or.inl ⟨?_, ?_, ?_, rfl, owned.noDestructor⟩⟩
    · change 0 < world.strong - 1
      have positive := owned.positive
      omega
    · rw [log_releaseArc_of_shared last]
      exact owned.notDropped
    · exact countP_releaseArc.trans owned.notDestroyed

theorem sound_dropper (sound : Sound world)
    (stepEq : step world .dropper = some next) : Sound next := by
  unfold step at stepEq
  rcases sound.phase with owned | dying
  · rw [owned.dropperIdle] at stepEq
    cases stepEq
  · rcases dying.threads with ⟨idle, _⟩ | ⟨stage, pending, ⟨dropping, idle⟩ | ⟨idle, _⟩⟩
    · rw [idle] at stepEq
      cases stepEq
    · rw [dropping] at stepEq
      cases stepEq
      have sameProgress := (destructorStep_spec sound.safe pending).2.2.2.2.1
      exact sound_destructorStep sound dying.noReference pending rfl rfl rfl
        (Or.inl ⟨rfl, sameProgress.trans idle⟩)
    · rw [idle] at stepEq
      cases stepEq

theorem sound_startCallback {request : ConnRequestPointer} (sound : Sound world)
    (alive : 0 < world.strong)
    (stepEq : step world (.startCallback request) = some next) : Sound next := by
  obtain ⟨⟨_, idle⟩, ⟨⟩⟩ := Option.ite_none_right_eq_some.mp stepEq
  have counted := sound.counted
  rw [idle] at counted
  refine ⟨sound.safe, counted, Or.inl ?_⟩
  rcases sound.phase with owned | dying
  · exact ⟨alive, owned.notDropped, owned.notDestroyed, owned.dropperIdle, rfl⟩
  · exact absurd dying.noReference (Nat.ne_of_gt alive)

/-- A step of the progress thread that keeps the strong count, or raises it,
in an owned state. -/
theorem sound_of_owned (sound : Sound world) (owned : Owned world)
    (safe : TeardownSafe next.log) (notDropped : .stateDropBegan ∉ next.log)
    (notDestroyed : next.log.countP Event.isDestroy = 0)
    (dropperEq : next.dropper = world.dropper)
    (running : next.progress.runsDestructor = false)
    (grows : world.strong ≤ next.strong)
    (balance : next.strong + (world.owners + world.progress.references) =
      world.strong + (next.owners + next.progress.references)) : Sound next := by
  have counted := sound.counted
  refine ⟨safe, by omega, Or.inl ?_⟩
  exact ⟨owned.positive.trans_le grows, notDropped, notDestroyed,
    dropperEq.trans owned.dropperIdle, running⟩

theorem sound_progressStep (sound : Sound world)
    (stepEq : world.progressStep = some next) : Sound next := by
  unfold World.progressStep at stepEq
  have counted := sound.counted
  cases progressEq : world.progress with
  | idle =>
      rw [progressEq] at stepEq
      cases stepEq
  | handling request =>
      rw [progressEq] at stepEq
      cases stepEq
  | entered request =>
      rw [progressEq] at stepEq
      cases stepEq
      have owned := sound.owned_of_running (by rw [progressEq]; exact Thread.noConfusion)
        (by rw [progressEq]; rfl)
      refine sound_of_owned sound owned ?_ ?_ owned.notDestroyed rfl rfl
        (Nat.le_succ _) ?_
      · refine sound.safe.record _ ?_ (fun _ => owned.notDropped) (by rintro ⟨⟩)
          (by rintro ⟨⟩)
        rintro _ ⟨⟩
        exact owned.positive
      · exact List.not_mem_cons_of_ne_of_not_mem (by rintro ⟨⟩) owned.notDropped
      · rw [progressEq]
        change world.strong + 1 + (world.owners + 0) = world.strong + (world.owners + 1)
        omega
  | counted request =>
      rw [progressEq] at stepEq
      cases stepEq
      have owned := sound.owned_of_running (by rw [progressEq]; exact Thread.noConfusion)
        (by rw [progressEq]; rfl)
      refine sound_of_owned sound owned sound.safe owned.notDropped owned.notDestroyed
        rfl rfl (Nat.le_succ _) ?_
      rw [progressEq]
      change world.strong + 1 + (world.owners + 1) = world.strong + (world.owners + 2)
      omega
  | cloned request =>
      rw [progressEq] at stepEq
      have owned := sound.owned_of_running (by rw [progressEq]; exact Thread.noConfusion)
        (by rw [progressEq]; rfl)
      have rejected : Sound { world with progress := .returning true } :=
        sound_of_owned sound owned sound.safe owned.notDropped owned.notDestroyed
          rfl rfl le_rfl (by rw [progressEq]; rfl)
      simp only at stepEq
      split at stepEq
      · cases stepEq
        exact rejected
      · split at stepEq
        · cases stepEq
          exact rejected
        · cases stepEq
          refine sound_of_owned sound owned ?_ ?_ owned.notDestroyed rfl rfl le_rfl ?_
          · exact sound.safe.record .closureRan (by rintro _ ⟨⟩)
              (fun _ => owned.notDropped) (by rintro ⟨⟩) (by rintro ⟨⟩)
          · exact List.not_mem_cons_of_ne_of_not_mem (by rintro ⟨⟩) owned.notDropped
          · rw [progressEq]
            rfl
  | returning holdsRequest =>
      rw [progressEq] at stepEq counted
      cases stepEq
      have owned := sound.owned_of_running (by rw [progressEq]; exact Thread.noConfusion)
        (by rw [progressEq]; rfl)
      cases holdsRequest with
      | false =>
          exact @sound_progress_release world .idle world.owners sound owned rfl
            counted (fun _ => rfl)
      | true =>
          exact @sound_progress_release world .droppingRequest world.owners sound owned
            rfl counted (by rintro ⟨⟩)
  | droppingRequest =>
      rw [progressEq] at stepEq counted
      cases stepEq
      have owned := sound.owned_of_running (by rw [progressEq]; exact Thread.noConfusion)
        (by rw [progressEq]; rfl)
      exact @sound_progress_release world .idle world.owners sound owned rfl
        counted (fun _ => rfl)
  | destructor stage resume =>
      rcases sound.phase with owned | dying
      · have running := owned.noDestructor
        rw [progressEq] at running
        cases running
      · rcases dying.threads with ⟨_, idle⟩ | ⟨only, pending, ⟨_, idle⟩ | ⟨idle, dropping⟩⟩
        · rw [idle] at progressEq
          cases progressEq
        · rw [idle] at progressEq
          cases progressEq
        · rw [dropping] at stepEq
          cases stepEq
          have sameDropper := (destructorStep_spec sound.safe pending).2.2.2.1
          exact sound_destructorStep sound dying.noReference pending rfl rfl rfl
            (Or.inr ⟨sameDropper.trans idle, rfl⟩)

theorem sound_closureStep {request : Option ConnRequestPointer} {action : ClosureAction}
    (sound : Sound world) (progressEq : world.progress = .handling request)
    (stepEq : world.closureStep request action = some next) : Sound next := by
  have owned := sound.owned_of_running (by rw [progressEq]; exact Thread.noConfusion)
    (by rw [progressEq]; rfl)
  have counted := sound.counted
  rw [progressEq] at counted
  cases action with
  | dropRequest =>
      obtain ⟨given, ⟨⟩⟩ := Option.ite_none_right_eq_some.mp stepEq
      obtain ⟨pointer, rfl⟩ := Option.isSome_iff_exists.mp given
      exact @sound_progress_release world (.handling none) world.owners sound owned rfl
        counted (by rintro ⟨⟩)
  | keepRequest =>
      obtain ⟨given, ⟨⟩⟩ := Option.ite_none_right_eq_some.mp stepEq
      obtain ⟨pointer, rfl⟩ := Option.isSome_iff_exists.mp given
      refine sound_of_owned sound owned sound.safe owned.notDropped owned.notDestroyed
        rfl rfl le_rfl ?_
      rw [progressEq]
      change world.strong + (world.owners + 2) = world.strong + (world.owners + 1 + 1)
      omega
  | dropOwner =>
      obtain ⟨hasOwner, ⟨⟩⟩ := Option.ite_none_right_eq_some.mp stepEq
      refine @sound_progress_release world (.handling request) (world.owners - 1) sound
        owned rfl ?_ ?_
      · omega
      · intro noReference
        exact absurd noReference (Nat.succ_ne_zero _)
  | finish completion =>
      obtain ⟨disposed, ⟨⟩⟩ := Option.ite_none_right_eq_some.mp stepEq
      rw [Option.isNone_iff_eq_none] at disposed
      subst disposed
      exact sound_of_owned sound owned sound.safe owned.notDropped owned.notDestroyed
        rfl rfl le_rfl (by rw [progressEq]; rfl)

/-- A step that holds deliveries back as required keeps the invariant. -/
theorem sound_step {label : Label} (sound : Sound world)
    (held : DeliveryHeld world label next) (stepEq : step world label = some next) :
    Sound next := by
  cases label with
  | dropOwner => exact sound_dropOwner sound held stepEq
  | dropper => exact sound_dropper sound stepEq
  | startCallback request => exact sound_startCallback sound held stepEq
  | progress => exact sound_progressStep sound stepEq
  | closure action =>
      unfold step at stepEq
      cases progressEq : world.progress with
      | handling request =>
          rw [progressEq] at stepEq
          exact sound_closureStep sound progressEq stepEq
      | _ =>
          rw [progressEq] at stepEq
          cases stepEq

/-- A step that does not hold deliveries back lets the next step of the callback
take its reference at count zero. -/
theorem reference_at_zero {label : Label} (stepEq : step world label = some next)
    (released : ¬ DeliveryHeld world label next) :
    ∃ after, step next .progress = some after ∧ ¬ TeardownSafe after.log := by
  have unsafeAfter : ∀ request, next.strong = 0 → next.progress = .entered request →
      ∃ after, step next .progress = some after ∧ ¬ TeardownSafe after.log := by
    intro request none entered
    refine ⟨{ next.record (.tookReference next.strong) with
      strong := next.strong + 1, progress := .counted request }, ?_, ?_⟩
    · change next.progressStep = _
      rw [World.progressStep, entered]
    · intro safe
      have positive := safe.references next.strong (List.mem_cons_self ..)
      omega
  cases label with
  | startCallback request =>
      obtain ⟨_, ⟨⟩⟩ := Option.ite_none_right_eq_some.mp stepEq
      exact unsafeAfter request (Nat.eq_zero_of_not_pos released) rfl
  | dropOwner =>
      obtain ⟨_, ⟨⟩⟩ := Option.ite_none_right_eq_some.mp stepEq
      obtain ⟨last, entered⟩ := Classical.not_imp.mp released
      cases progressEq : world.progress with
      | entered request =>
          refine unsafeAfter request ?_ progressEq
          change world.strong - 1 = 0
          omega
      | _ =>
          rw [progressEq] at entered
          exact absurd rfl entered
  | _ => exact absurd trivial released

/-- Teardown is safe in every run whose steps hold deliveries back while the
state has no owner; and after any run, a step that does not hold them back has
a continuation in which teardown is not safe.  A thread that is left alone in
the destructor runs `Drop for ListenerState`. -/
theorem teardown_safe_while_held (callback : ConnCallback) (handle : ListenerHandle)
    (run : List Label) (final : World)
    (runEq : runFrom step (.created callback handle) run = some final) :
    (EveryStep step DeliveryHeld (.created callback handle) run →
        TeardownSafe final.log) ∧
      (∀ label next, step final label = some next → ¬ DeliveryHeld final label next →
        ∃ after, step next .progress = some after ∧ ¬ TeardownSafe after.log) ∧
      ∀ resume, final.dropper = .destructor .lockHandle resume → RunsDrop final resume := by
  refine ⟨?_, ?_, fun resume dropping => destructor_runs_drop dropping⟩
  · intro held
    exact (@invariant_of_guarded_run World Label step Sound DeliveryHeld
      (fun sound held stepEq => sound_step sound held stepEq) _ _ _ held runEq
      (sound_created callback handle)).safe
  · intro label next stepEq released
    exact reference_at_zero stepEq released

/-- A request is delivered and moved out of the closure, the listener is
dropped, and the request is dropped last. -/
def lateRequest : List Label :=
  [.startCallback ⟨16⟩, .progress, .progress, .progress, .closure .keepRequest,
    .closure (.finish (.returned ())), .progress, .dropOwner, .dropOwner, .dropper,
    .dropper, .dropper, .dropper, .dropper]

private theorem lateRequest_run :
    (runFrom step (.created ⟨0⟩ ⟨4096⟩) lateRequest).map World.log =
      some [.closureDropped, .destroyCalled ⟨4096⟩, .stateDropBegan, .closureRan,
        .tookReference 1] := by
  decide

theorem lateRequest_safe :
    TeardownSafe [.closureDropped, .destroyCalled ⟨4096⟩, .stateDropBegan, .closureRan,
      .tookReference 1] := by
  obtain ⟨final, runEq, logEq⟩ := Option.map_eq_some_iff.mp lateRequest_run
  rw [← logEq]
  exact (teardown_safe_while_held ⟨0⟩ ⟨4096⟩ lateRequest final runEq).1 (by decide)

/-- The listener is dropped, and UCX starts a callback before
`ucp_listener_destroy` is called.  The callback's references die with it, so
both threads drop the state and destroy its listener. -/
def raceSchedule : List Label :=
  [.dropOwner, .dropper, .startCallback ⟨16⟩, .progress, .progress, .progress,
    .closure .dropRequest, .closure (.finish (.returned ())), .progress, .progress,
    .progress, .dropper]

theorem race_breaks_teardown :
    ∃ final, runFrom step (.created ⟨0⟩ ⟨4096⟩) raceSchedule = some final ∧
      final.log = [.destroyCalled ⟨4096⟩, .destroyCalled ⟨4096⟩, .stateDropBegan,
        .closureRan, .tookReference 0, .stateDropBegan] ∧
      ¬ TeardownSafe final.log := by
  have computed : (runFrom step (.created ⟨0⟩ ⟨4096⟩) raceSchedule).map World.log =
      some [.destroyCalled ⟨4096⟩, .destroyCalled ⟨4096⟩, .stateDropBegan,
        .closureRan, .tookReference 0, .stateDropBegan] := by
    decide
  obtain ⟨final, runEq, logEq⟩ := Option.map_eq_some_iff.mp computed
  refine ⟨final, runEq, logEq, ?_⟩
  intro safe
  rw [logEq] at safe
  exact absurd (safe.references 0 (by decide)) (Nat.lt_irrefl 0)

end ListenerTeardown

end UcxRs
