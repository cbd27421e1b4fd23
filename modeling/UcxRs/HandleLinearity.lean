import UcxRs.HandleOwnership

/-!
# Components that use handles linearly

Every run of a component keeps its handles linear: a tracked handle has at most
one holder, and every call that names it is made while it is handed out.  Each
kind of step is a lemma of its own, and the run lemma is one application of the
invariant rule.
-/

namespace HandleOwnership

open Interaction (Program)
open TransitionRuns

variable {Call : Type} {Answer : Call → Type} {Handle Resident Posting Operation : Type}

section Steps

variable [DecidableEq Handle]
  (component : Component Call Answer Handle Resident Posting Operation)

namespace Slot

/-- The handle that a slot holds, given the handle of an idle value. -/
def held (handle : Resident → Option Handle) :
    Slot Call Answer Handle Resident → Option Handle
  | unused => none
  | idle resident => handle resident
  | running _ held _ => held
  | consumed => none

end Slot

/-- The value of a slot holds no handle any more. -/
def Component.GaveUp : Slot Call Answer Handle Resident → Prop
  | .unused => False
  | .idle resident => component.handle resident = none
  | .running posting held _ => posting = false ∧ held = none
  | .consumed => True

/-- What a program that is under way still respects. -/
def Component.Runs : Slot Call Answer Handle Resident → Prop
  | .running posting held program =>
      component.Respects
        (fun call held => posting = false → component.Operates call held)
        (fun outcome held => ∀ resident owned, outcome.resident = some resident →
          component.handle resident = some owned → held = some owned) program held
  | _ => True

/-- Every call that names a tracked handle was made while it was handed out. -/
def Component.UsedWhileLive : List (Entry Call Answer) → Prop
  | [] => True
  | entry :: older =>
      (∀ handle, component.tracked handle = true →
        component.names entry.call = some handle →
          component.isLive handle older = true) ∧
      Component.UsedWhileLive older

structure Component.Linear (world : World Call Answer Handle Resident) : Prop where
  runs : ∀ index, component.Runs (world.slots index)
  live : ∀ index handle, component.tracked handle = true →
    (world.slots index).held component.handle = some handle →
      component.isLive handle world.log = true
  unique : ∀ first second handle, component.tracked handle = true →
    (world.slots first).held component.handle = some handle →
    (world.slots second).held component.handle = some handle → first = second
  used : component.UsedWhileLive world.log
  givenUp : ∀ entry ∈ world.log, entry.posting = false →
    component.releases entry.call ≠ none → component.GaveUp (world.slots entry.slot)

/-- What each step finds and leaves. -/
inductive Component.Moves (world : World Call Answer Handle Resident) :
    World Call Answer Handle Resident → Prop where
  | post {index : Nat} (posting : Posting) (found : world.slots index = .unused) :
      Component.Moves world
        (world.setSlot index (.running true none (component.post posting)))
  | operate {index : Nat} {operation : Operation} {resident : Resident}
      {program : Program Call Answer (Outcome Resident)}
      (found : world.slots index = .idle resident)
      (operated : component.operate operation resident = some program) :
      Component.Moves world
        (world.setSlot index (.running false (component.handle resident) program))
  | answer {index : Nat} {posting : Bool} {held : Option Handle} {call : Call}
      {resume : Answer call → Program Call Answer (Outcome Resident)} {answer : Answer call}
      (found : world.slots index = .running posting held (.issue call resume))
      (mayGrant : component.mayGrant world.log (component.grants call answer) = true) :
      Component.Moves world {
        slots := Function.update world.slots index
          (.running posting (component.heldAfter held call answer) (resume answer))
        log := ⟨index, posting, call, answer⟩ :: world.log }
  | keep {index : Nat} {posting : Bool} {held : Option Handle} {resident : Resident}
      (found : world.slots index = .running posting held (.done (.keeps resident))) :
      Component.Moves world (world.setSlot index (.idle resident))
  | move {index target : Nat} {posting : Bool} {held : Option Handle} {resident : Resident}
      (found : world.slots index = .running posting held (.done (.moves resident)))
      (unused : world.slots target = .unused) :
      Component.Moves world
        ((world.setSlot index .consumed).setSlot target (.idle resident))
  | consume {index : Nat} {posting : Bool} {held : Option Handle}
      (found : world.slots index = .running posting held (.done .ends)) :
      Component.Moves world (world.setSlot index .consumed)

variable {component} {world next : World Call Answer Handle Resident}

theorem moves_of_step {label : Label Call Answer Posting Operation}
    (stepEq : component.step world label = some next) : component.Moves world next := by
  unfold Component.step at stepEq
  split at stepEq
  · rename_i index posting
    split at stepEq
    · rename_i found
      cases stepEq
      exact .post posting found
    · cases stepEq
  · rename_i index operation
    split at stepEq
    · rename_i resident found
      obtain ⟨program, operated, rfl⟩ := Option.map_eq_some_iff.mp stepEq
      exact .operate found operated
    · cases stepEq
  · rename_i index oracle
    split at stepEq
    · rename_i posting held call resume found
      obtain ⟨answer, _, granted⟩ := Option.bind_eq_some_iff.mp stepEq
      obtain ⟨mayGrant, ⟨⟩⟩ := Option.ite_none_right_eq_some.mp granted
      exact .answer found mayGrant
    · cases stepEq
  · rename_i index target
    split at stepEq
    · rename_i posting held resident found
      cases stepEq
      exact .keep found
    · rename_i posting held resident found
      split at stepEq
      · rename_i unused
        cases stepEq
        exact .move found unused
      · cases stepEq
    · rename_i posting held found
      cases stepEq
      exact .consume found
    · cases stepEq

theorem linear_initial :
    component.Linear (World.initial : World Call Answer Handle Resident) where
  runs := fun _ => trivial
  live := by rintro _ _ _ ⟨⟩
  unique := by rintro _ _ _ _ ⟨⟩
  used := trivial
  givenUp := by rintro _ ⟨⟩

/-- Who holds a handle after one slot has changed. -/
theorem held_update {slots : Nat → Slot Call Answer Handle Resident} {index other : Nat}
    {slot : Slot Call Answer Handle Resident} {handle : Handle}
    (heldEq : (Function.update slots index slot other).held component.handle = some handle) :
    (other = index ∧ slot.held component.handle = some handle) ∨
      (other ≠ index ∧ (slots other).held component.handle = some handle) := by
  by_cases same : other = index
  · rw [same, Function.update_self] at heldEq
    exact Or.inl ⟨same, heldEq⟩
  · rw [Function.update_of_ne same] at heldEq
    exact Or.inr ⟨same, heldEq⟩

/-- Replacing a slot by one that holds at most the same handle, and no more
than before when it had given up. -/
theorem Component.Linear.setSlot (linear : component.Linear world) {index : Nat}
    {slot : Slot Call Answer Handle Resident} (runs : component.Runs slot)
    (holds : ∀ handle, slot.held component.handle = some handle →
      (world.slots index).held component.handle = some handle)
    (stays : component.GaveUp (world.slots index) → component.GaveUp slot) :
    component.Linear (world.setSlot index slot) := by
  have before : ∀ other handle,
      (Function.update world.slots index slot other).held component.handle = some handle →
        (world.slots other).held component.handle = some handle := by
    intro other handle heldEq
    rcases held_update heldEq with ⟨rfl, now⟩ | ⟨_, earlier⟩
    · exact holds handle now
    · exact earlier
  constructor
  case runs =>
    exact (Function.forall_update_iff world.slots fun _ => component.Runs).mpr
      ⟨runs, fun other _ => linear.runs other⟩
  case live =>
    intro other handle tracked heldEq
    exact linear.live other handle tracked (before other handle heldEq)
  case unique =>
    intro first second handle tracked firstHeld secondHeld
    exact linear.unique first second handle tracked (before first handle firstHeld)
      (before second handle secondHeld)
  case used => exact linear.used
  case givenUp =>
    intro entry member operation released
    have gaveUp := linear.givenUp entry member operation released
    change component.GaveUp (Function.update world.slots index slot entry.slot)
    by_cases same : entry.slot = index
    · rw [same, Function.update_self]
      rw [same] at gaveUp
      exact stays gaveUp
    · rw [Function.update_of_ne same]
      exact gaveUp

/-- A value hands its handle over to a new value. -/
theorem Component.Linear.move (linear : component.Linear world) {index target : Nat}
    {resident : Resident} (unused : world.slots target = .unused)
    (holds : ∀ handle, component.handle resident = some handle →
      (world.slots index).held component.handle = some handle) :
    component.Linear ((world.setSlot index .consumed).setSlot target (.idle resident)) := by
  have consumed : component.Linear (world.setSlot index .consumed) :=
    linear.setSlot trivial (by rintro _ ⟨⟩) (fun _ => trivial)
  -- the holder before the step of what a slot holds after it
  have before : ∀ other handle,
      (Function.update (world.setSlot index .consumed).slots target (.idle resident)
        other).held component.handle = some handle →
      (other = target ∧ (world.slots index).held component.handle = some handle) ∨
        (other ≠ index ∧ (world.slots other).held component.handle = some handle) := by
    intro other handle heldEq
    rcases held_update heldEq with ⟨same, now⟩ | ⟨_, earlier⟩
    · exact Or.inl ⟨same, holds handle now⟩
    · rcases held_update earlier with ⟨_, gone⟩ | ⟨different, earlier⟩
      · cases gone
      · exact Or.inr ⟨different, earlier⟩
  constructor
  case runs =>
    exact (Function.forall_update_iff _ fun _ => component.Runs).mpr
      ⟨trivial, fun other _ => consumed.runs other⟩
  case live =>
    intro other handle tracked heldEq
    rcases before other handle heldEq with ⟨_, owned⟩ | ⟨_, owned⟩
    · exact linear.live index handle tracked owned
    · exact linear.live other handle tracked owned
  case unique =>
    intro first second handle tracked firstHeld secondHeld
    rcases before first handle firstHeld with ⟨firstEq, owned⟩ | ⟨firstNe, owned⟩
    · rcases before second handle secondHeld with ⟨secondEq, _⟩ | ⟨secondNe, other⟩
      · rw [firstEq, secondEq]
      · exact absurd (linear.unique second index handle tracked other owned) secondNe
    · rcases before second handle secondHeld with ⟨_, other⟩ | ⟨_, other⟩
      · exact absurd (linear.unique first index handle tracked owned other) firstNe
      · exact linear.unique first second handle tracked owned other
  case used => exact linear.used
  case givenUp =>
    intro entry member operation released
    have gaveUp := consumed.givenUp entry member operation released
    have different : entry.slot ≠ target := by
      intro same
      -- a slot that has made a call is not unused
      have earlier := linear.givenUp entry member operation released
      rw [same, unused] at earlier
      exact earlier
    change component.GaveUp (Function.update (world.setSlot index .consumed).slots target
      (.idle resident) entry.slot)
    rw [Function.update_of_ne different]
    exact gaveUp

theorem isLive_cons_of_ne {entry : Entry Call Answer} {log : List (Entry Call Answer)}
    {handle : Handle} (kept : component.releases entry.call ≠ some handle)
    (live : component.isLive handle log = true) :
    component.isLive handle (entry :: log) = true := by
  rw [Component.isLive, if_neg kept, live]
  exact ite_self true

theorem isLive_cons_of_granted {entry : Entry Call Answer} {log : List (Entry Call Answer)}
    {handle : Handle} (granted : component.granted entry = some handle) :
    component.isLive handle (entry :: log) = true := by
  rw [Component.isLive, if_pos granted]

/-- What a program holds after a call it was granted, or held before it and did
not give back. -/
theorem heldAfter_eq_some {held : Option Handle} {call : Call} {answer : Answer call}
    {handle : Handle} (heldEq : component.heldAfter held call answer = some handle) :
    component.grants call answer = some handle ∨
      held = some handle ∧ component.releases call ≠ some handle := by
  unfold Protocol.heldAfter at heldEq
  split at heldEq
  · rename_i granted grantedEq
    exact Or.inl (grantedEq.trans heldEq)
  · split at heldEq
    · cases heldEq
    · rename_i kept
      exact Or.inr ⟨heldEq, fun released => kept (released.trans heldEq.symm)⟩

/-- Who holds a handle after a call was granted it by the call, or held it before
and the call does not give it back. -/
theorem Component.Linear.holder_answer (linear : component.Linear world) {index : Nat}
    {posting : Bool} {held : Option Handle} {call : Call}
    {resume : Answer call → Program Call Answer (Outcome Resident)}
    (found : world.slots index = .running posting held (.issue call resume))
    {answer : Answer call} {other : Nat} {handle : Handle}
    (tracked : component.tracked handle = true)
    (heldEq : (Function.update world.slots index
      (.running posting (component.heldAfter held call answer) (resume answer))
        other).held component.handle = some handle) :
    (other = index ∧ component.grants call answer = some handle) ∨
      ((world.slots other).held component.handle = some handle ∧
        component.releases call ≠ some handle) := by
  have runs := linear.runs index
  rw [found] at runs
  obtain ⟨_, named, _⟩ := runs
  have heldHere : (world.slots index).held component.handle = held := by
    rw [found]
    rfl
  rcases held_update heldEq with ⟨same, now⟩ | ⟨different, earlier⟩
  · rcases heldAfter_eq_some now with granted | ⟨before, kept⟩
    · exact Or.inl ⟨same, granted⟩
    · rw [same]
      exact Or.inr ⟨heldHere.trans before, kept⟩
  · refine Or.inr ⟨earlier, fun released => different ?_⟩
    have here := named handle (component.names_of_releases released)
    exact linear.unique other index handle tracked earlier (heldHere.trans here)

/-- A call that comes back with a grant the library may make. -/
theorem Component.Linear.answer (linear : component.Linear world) {index : Nat}
    {posting : Bool} {held : Option Handle} {call : Call}
    {resume : Answer call → Program Call Answer (Outcome Resident)}
    (found : world.slots index = .running posting held (.issue call resume))
    {answer : Answer call}
    (mayGrant : component.mayGrant world.log (component.grants call answer) = true) :
    component.Linear {
      slots := Function.update world.slots index
        (.running posting (component.heldAfter held call answer) (resume answer))
      log := ⟨index, posting, call, answer⟩ :: world.log } := by
  have runs := linear.runs index
  rw [found] at runs
  obtain ⟨admitted, named, rest⟩ := runs
  have heldHere : (world.slots index).held component.handle = held := by
    rw [found]
    rfl
  have notGranted : ∀ other handle, component.tracked handle = true →
      (world.slots other).held component.handle = some handle →
        component.grants call answer ≠ some handle := by
    intro other handle tracked heldEq granted
    rw [granted] at mayGrant
    have live := linear.live other handle tracked heldEq
    simp [Component.mayGrant, tracked, live] at mayGrant
  constructor
  case runs =>
    exact (Function.forall_update_iff world.slots fun _ => component.Runs).mpr
      ⟨rest answer, fun other _ => linear.runs other⟩
  case live =>
    intro other handle tracked heldEq
    rcases linear.holder_answer found tracked heldEq with ⟨_, granted⟩ | ⟨before, kept⟩
    · exact isLive_cons_of_granted granted
    · exact isLive_cons_of_ne kept (linear.live other handle tracked before)
  case unique =>
    intro first second handle tracked firstHeld secondHeld
    rcases linear.holder_answer found tracked firstHeld with
      ⟨firstHere, granted⟩ | ⟨firstBefore, _⟩
    · rcases linear.holder_answer found tracked secondHeld with
        ⟨secondHere, _⟩ | ⟨secondBefore, _⟩
      · exact firstHere.trans secondHere.symm
      · exact absurd granted (notGranted second handle tracked secondBefore)
    · rcases linear.holder_answer found tracked secondHeld with
        ⟨_, granted⟩ | ⟨secondBefore, _⟩
      · exact absurd granted (notGranted first handle tracked firstBefore)
      · exact linear.unique first second handle tracked firstBefore secondBefore
  case used =>
    refine ⟨fun handle tracked names => ?_, linear.used⟩
    exact linear.live index handle tracked (heldHere.trans (named handle names))
  case givenUp =>
    intro entry member operation released
    change component.GaveUp (Function.update world.slots index _ entry.slot)
    rcases List.mem_cons.mp member with rfl | earlier
    · rw [Function.update_self]
      obtain ⟨holds, grantless⟩ := admitted operation
      obtain ⟨handle, releasedEq⟩ := Option.ne_none_iff_exists'.mp released
      have here := named handle (component.names_of_releases releasedEq)
      refine ⟨operation, ?_⟩
      unfold Protocol.heldAfter
      rw [grantless answer]
      exact if_pos (releasedEq.trans here.symm)
    · have gaveUp := linear.givenUp entry earlier operation released
      have different : entry.slot ≠ index := by
        intro same
        rw [same, found] at gaveUp
        exact absurd gaveUp.2 (admitted gaveUp.1).1
      rw [Function.update_of_ne different]
      exact gaveUp

theorem linear_step {label : Label Call Answer Posting Operation}
    (linear : component.Linear world) (stepEq : component.step world label = some next) :
    component.Linear next := by
  cases moves_of_step stepEq with
  | post posting found =>
      refine linear.setSlot ?_ (by rintro _ ⟨⟩) ?_
      · exact (component.post_respects posting).mono (fun _ _ _ operation => by cases operation)
          (fun _ _ ensured => ensured)
      · rw [found]
        exact False.elim
  | operate found operated =>
      refine linear.setSlot ?_ ?_ ?_
      · exact (component.operate_respects operated).mono (fun _ _ operates _ => operates)
          (fun _ _ ensured => ensured)
      · rw [found]
        exact fun _ heldEq => heldEq
      · rw [found]
        exact fun gaveUp => ⟨rfl, gaveUp⟩
  | answer found mayGrant => exact linear.answer found mayGrant
  | @keep index posting held resident found =>
      have ensured := linear.runs index
      rw [found] at ensured
      refine linear.setSlot trivial ?_ ?_
      · rw [found]
        exact fun handle heldEq => ensured resident handle rfl heldEq
      · rw [found]
        rintro ⟨_, none⟩
        exact Option.eq_none_iff_forall_ne_some.mpr fun handle heldEq =>
          Option.some_ne_none handle ((ensured resident handle rfl heldEq).symm.trans none)
  | @move index target posting held resident found unused =>
      have ensured := linear.runs index
      rw [found] at ensured
      refine linear.move unused ?_
      rw [found]
      exact fun handle heldEq => ensured resident handle rfl heldEq
  | consume found => exact linear.setSlot trivial (by rintro _ ⟨⟩) (fun _ => trivial)

theorem linear_of_reachable (reached : Reachable component.step World.initial world) :
    component.Linear world :=
  @Reachable.invariant _ _ _ component.Linear
    (fun linear stepEq => linear_step linear stepEq) _ _ reached linear_initial

theorem usedWhileLive_of_append {newer older : List (Entry Call Answer)}
    (used : component.UsedWhileLive (newer ++ older)) : component.UsedWhileLive older := by
  induction newer with
  | nil => exact used
  | cons entry newer ih => exact ih used.2

/-- A released handle stays with the library until it is granted again. -/
theorem isLive_of_released {newer older : List (Entry Call Answer)}
    {released : Entry Call Answer} {handle : Handle}
    (releases : component.releases released.call = some handle)
    (notGranted : ∀ entry ∈ newer, component.granted entry ≠ some handle) :
    component.isLive handle (newer ++ released :: older) = false := by
  induction newer with
  | nil =>
      have granted : component.granted released = none :=
        component.grants_of_releases releases released.answer
      rw [List.nil_append, Component.isLive, granted, if_neg (Option.some_ne_none _).symm,
        if_pos releases]
  | cons entry newer ih =>
      have now := notGranted entry (List.mem_cons_self ..)
      have rest := ih fun other member => notGranted other (List.mem_cons_of_mem _ member)
      rw [List.cons_append, Component.isLive, if_neg now, rest]
      exact ite_self false

/-- No call names a tracked handle between its release and its next grant; in
particular none releases it again. -/
theorem Component.Linear.not_named_after_release (linear : component.Linear world)
    {newer older : List (Entry Call Answer)} {released : Entry Call Answer}
    {handle : Handle} (split : world.log = newer ++ released :: older)
    (tracked : component.tracked handle = true)
    (releases : component.releases released.call = some handle)
    (notGranted : ∀ entry ∈ newer, component.granted entry ≠ some handle) :
    ∀ entry ∈ newer, component.names entry.call ≠ some handle := by
  intro entry member named
  obtain ⟨later, earlier, rfl⟩ := List.append_of_mem member
  have used := linear.used
  rw [split, List.append_assoc, List.cons_append] at used
  have live := (usedWhileLive_of_append used).1 handle tracked named
  have dead := @isLive_of_released _ _ _ _ _ _ _ component earlier older released handle
    releases fun other earlierMember =>
      notGranted other (List.mem_append_right _ (List.mem_cons_of_mem _ earlierMember))
  rw [dead] at live
  cases live

/-- The calls that a slot has made. -/
def World.callsOf (world : World Call Answer Handle Resident) (index : Nat) :
    List (Entry Call Answer) :=
  world.log.filter fun entry => entry.slot == index

theorem silent_step {label : Label Call Answer Posting Operation} {index : Nat}
    (linear : component.Linear world) (gaveUp : component.GaveUp (world.slots index))
    (stepEq : component.step world label = some next) :
    component.GaveUp (next.slots index) ∧ next.callsOf index = world.callsOf index := by
  have replaced : ∀ other slot, (other = index → component.GaveUp slot) →
      component.GaveUp (Function.update world.slots other slot index) := by
    intro other slot here
    by_cases same : other = index
    · rw [same, Function.update_self]
      exact here same
    · rw [Function.update_of_ne (Ne.symm same)]
      exact gaveUp
  cases moves_of_step stepEq with
  | @post other posting found =>
      refine ⟨replaced other _ fun same => ?_, rfl⟩
      rw [← same, found] at gaveUp
      exact absurd gaveUp id
  | @operate other operation resident program found operated =>
      refine ⟨replaced other _ fun same => ?_, rfl⟩
      rw [← same, found] at gaveUp
      exact ⟨rfl, gaveUp⟩
  | @answer other posting held call resume answer found mayGrant =>
      have different : other ≠ index := by
        intro same
        rw [← same, found] at gaveUp
        have runs := linear.runs other
        rw [found] at runs
        exact (runs.1 gaveUp.1).1 gaveUp.2
      refine ⟨replaced other _ fun same => absurd same different, ?_⟩
      exact List.filter_cons_of_neg (by simpa using different)
  | @keep other posting held resident found =>
      refine ⟨replaced other _ fun same => ?_, rfl⟩
      have ensured := linear.runs other
      rw [found] at ensured
      rw [← same, found] at gaveUp
      exact Option.eq_none_iff_forall_ne_some.mpr fun handle heldEq =>
        Option.some_ne_none handle ((ensured resident handle rfl heldEq).symm.trans gaveUp.2)
  | @move other target posting held resident found unused =>
      have different : index ≠ target := by
        intro same
        rw [same, unused] at gaveUp
        exact gaveUp
      refine ⟨?_, rfl⟩
      change component.GaveUp (Function.update (Function.update world.slots other .consumed)
        target (.idle resident) index)
      rw [Function.update_of_ne different]
      exact replaced other _ fun _ => trivial
  | @consume other posting held found => exact ⟨replaced other _ fun _ => trivial, rfl⟩

/-- A value that has given up its handle makes no call in the rest of any run. -/
theorem silent_run {run : List (Label Call Answer Posting Operation)} {index : Nat}
    (linear : component.Linear world) (gaveUp : component.GaveUp (world.slots index))
    (runEq : runFrom component.step world run = some next) :
    next.callsOf index = world.callsOf index := by
  induction run generalizing world with
  | nil =>
      cases runEq
      rfl
  | cons label labels ih =>
      rw [runFrom_cons] at runEq
      obtain ⟨middle, stepEq, restEq⟩ := Option.bind_eq_some_iff.mp runEq
      obtain ⟨stays, silent⟩ := silent_step linear gaveUp stepEq
      exact (ih (linear_step linear stepEq) stays restEq).trans silent

end Steps

end HandleOwnership
