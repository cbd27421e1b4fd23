import UcxRs.HandleLinearity

/-!
# Components that give every handle back

Linear use says that no handle is released twice.  A component settles when no
method forgets the handle that it holds: it takes no second handle while it holds
one, and at its end the handle is with a value that stays.  Then a handle that is
handed out always has a holder, and once no value is left, the uses of each handle
are a number of rounds of a grant and a release.

What the component does not take over cannot be given back.  The file ends by
comparing the grants that a component follows with all that the library makes.
-/

namespace HandleOwnership

open Interaction (Program)
open TransitionRuns

variable {Call : Type} {Answer : Call → Type} {Handle Resident Posting Operation : Type}

section Settling

variable [DecidableEq Handle]
  (component : Component Call Answer Handle Resident Posting Operation)

namespace Component

/-- A program that holds a handle is granted no second one. -/
def AdmitsGrant (call : Call) (held : Option Handle) : Prop :=
  ∀ handle, component.tracked handle = true → held = some handle →
    ∀ answer, component.grants call answer = none

/-- What is held at the end goes to the value that is left. -/
def HandsOver (outcome : Outcome Resident) (held : Option Handle) : Prop :=
  ∀ handle, component.tracked handle = true → held = some handle →
    outcome.resident.bind component.handle = some handle

/-- No method forgets a handle. -/
structure Settles : Prop where
  post : ∀ posting,
    component.Respects component.AdmitsGrant component.HandsOver (component.post posting) none
  operate : ∀ {operation resident program},
    component.operate operation resident = some program →
    component.Respects component.AdmitsGrant component.HandsOver program
      (component.handle resident)

/-- What a program that is under way still settles. -/
def Settling : Slot Call Answer Handle Resident → Prop
  | .running _ held program =>
      component.Respects component.AdmitsGrant component.HandsOver program held
  | _ => True

/-- A tracked handle was granted only while it was not handed out. -/
def GrantedWhileFree : List (Entry Call Answer) → Prop
  | [] => True
  | entry :: older =>
      (∀ handle, component.tracked handle = true → component.granted entry = some handle →
        component.isLive handle older = false) ∧
      GrantedWhileFree older

/-- Every handle that is handed out has a holder. -/
structure Reclaims (world : World Call Answer Handle Resident) : Prop where
  settling : ∀ index, component.Settling (world.slots index)
  held : ∀ handle, component.tracked handle = true →
    component.isLive handle world.log = true →
      ∃ index, (world.slots index).held component.handle = some handle
  granted : component.GrantedWhileFree world.log

end Component

variable {component} {world next : World Call Answer Handle Resident}

theorem reclaims_initial :
    component.Reclaims (World.initial : World Call Answer Handle Resident) where
  settling := fun _ => trivial
  held := by rintro _ _ ⟨⟩
  granted := trivial

/-- Replacing a slot by one that holds what it held. -/
theorem Component.Reclaims.setSlot (reclaims : component.Reclaims world) {index : Nat}
    {slot : Slot Call Answer Handle Resident} (settling : component.Settling slot)
    (keeps : ∀ handle, component.tracked handle = true →
      (world.slots index).held component.handle = some handle →
        slot.held component.handle = some handle) :
    component.Reclaims (world.setSlot index slot) where
  settling :=
    (Function.forall_update_iff world.slots fun _ => component.Settling).mpr
      ⟨settling, fun other _ => reclaims.settling other⟩
  held := by
    intro handle tracked live
    obtain ⟨holder, heldEq⟩ := reclaims.held handle tracked live
    refine ⟨holder, ?_⟩
    change (Function.update world.slots index slot holder).held component.handle = some handle
    by_cases same : holder = index
    · rw [same] at heldEq ⊢
      rw [Function.update_self]
      exact keeps handle tracked heldEq
    · rw [Function.update_of_ne same]
      exact heldEq
  granted := reclaims.granted

/-- A value hands its handle over to a new value. -/
theorem Component.Reclaims.move (reclaims : component.Reclaims world) {index target : Nat}
    {resident : Resident} (unused : world.slots target = .unused)
    (keeps : ∀ handle, component.tracked handle = true →
      (world.slots index).held component.handle = some handle →
        component.handle resident = some handle) :
    component.Reclaims ((world.setSlot index .consumed).setSlot target (.idle resident)) where
  settling := by
    have consumed : ∀ other, component.Settling ((world.setSlot index .consumed).slots other) :=
      (Function.forall_update_iff world.slots fun _ => component.Settling).mpr
        ⟨trivial, fun other _ => reclaims.settling other⟩
    exact (Function.forall_update_iff _ fun _ => component.Settling).mpr
      ⟨trivial, fun other _ => consumed other⟩
  held := by
    intro handle tracked live
    obtain ⟨holder, heldEq⟩ := reclaims.held handle tracked live
    by_cases same : holder = index
    · refine ⟨target, ?_⟩
      change (Function.update (Function.update world.slots index .consumed) target
        (.idle resident) target).held component.handle = some handle
      rw [Function.update_self]
      rw [same] at heldEq
      exact keeps handle tracked heldEq
    · refine ⟨holder, ?_⟩
      have other : holder ≠ target := by
        intro equal
        rw [equal, unused] at heldEq
        cases heldEq
      change (Function.update (Function.update world.slots index .consumed) target
        (.idle resident) holder).held component.handle = some handle
      rw [Function.update_of_ne other, Function.update_of_ne same]
      exact heldEq
  granted := reclaims.granted

/-- What is handed out after a call was granted by it, or was handed out before and
the call does not give it back. -/
theorem isLive_cons {entry : Entry Call Answer} {log : List (Entry Call Answer)}
    {handle : Handle} (live : component.isLive handle (entry :: log) = true) :
    component.granted entry = some handle ∨
      component.releases entry.call ≠ some handle ∧ component.isLive handle log = true := by
  rw [Component.isLive] at live
  by_cases granted : component.granted entry = some handle
  · exact Or.inl granted
  · rw [if_neg granted] at live
    by_cases released : component.releases entry.call = some handle
    · rw [if_pos released] at live
      cases live
    · rw [if_neg released] at live
      exact Or.inr ⟨released, live⟩

theorem Component.Reclaims.answer (reclaims : component.Reclaims world) {index : Nat}
    {posting : Bool} {held : Option Handle} {call : Call}
    {resume : Answer call → Program Call Answer (Outcome Resident)}
    (found : world.slots index = .running posting held (.issue call resume))
    {answer : Answer call}
    (mayGrant : component.mayGrant world.log (component.grants call answer) = true) :
    component.Reclaims {
      slots := Function.update world.slots index
        (.running posting (component.heldAfter held call answer) (resume answer))
      log := ⟨index, posting, call, answer⟩ :: world.log } := by
  have settling := reclaims.settling index
  rw [found] at settling
  obtain ⟨admitted, _, rest⟩ := settling
  constructor
  case settling =>
    exact (Function.forall_update_iff world.slots fun _ => component.Settling).mpr
      ⟨rest answer, fun other _ => reclaims.settling other⟩
  case held =>
    intro handle tracked live
    change ∃ holder, (Function.update world.slots index _ holder).held component.handle =
      some handle
    rcases isLive_cons live with granted | ⟨kept, liveBefore⟩
    · refine ⟨index, ?_⟩
      rw [Function.update_self]
      change component.heldAfter held call answer = some handle
      have grants : component.grants call answer = some handle := granted
      rw [Protocol.heldAfter, grants]
    · obtain ⟨holder, heldEq⟩ := reclaims.held handle tracked liveBefore
      refine ⟨holder, ?_⟩
      by_cases same : holder = index
      · -- the program held it before the call, and the call does not give it back
        rw [same, found] at heldEq
        have holds : held = some handle := heldEq
        rw [same, Function.update_self]
        change component.heldAfter held call answer = some handle
        rw [Protocol.heldAfter, admitted handle tracked holds answer, holds]
        exact if_neg kept
      · rw [Function.update_of_ne same]
        exact heldEq
  case granted =>
    refine ⟨fun handle tracked granted => ?_, reclaims.granted⟩
    change component.grants call answer = some handle at granted
    rw [granted] at mayGrant
    simpa [Component.mayGrant, tracked] using mayGrant

theorem reclaims_step (settles : component.Settles)
    {label : Label Call Answer Posting Operation} (reclaims : component.Reclaims world)
    (stepEq : component.step world label = some next) : component.Reclaims next := by
  -- what the program of a slot settles when it ends
  have handsOver : ∀ {index posting held outcome},
      world.slots index = .running posting held (.done outcome) →
        component.HandsOver outcome held := by
    intro index posting held outcome found
    have settling := reclaims.settling index
    rw [found] at settling
    exact settling
  cases moves_of_step stepEq with
  | post posting found =>
      refine reclaims.setSlot (settles.post posting) ?_
      rw [found]
      rintro _ _ ⟨⟩
  | operate found operated =>
      refine reclaims.setSlot (settles.operate operated) ?_
      rw [found]
      exact fun _ _ heldEq => heldEq
  | answer found mayGrant => exact reclaims.answer found mayGrant
  | keep found =>
      refine reclaims.setSlot trivial ?_
      rw [found]
      exact handsOver found
  | move found unused =>
      refine reclaims.move unused ?_
      rw [found]
      exact handsOver found
  | consume found =>
      refine reclaims.setSlot trivial ?_
      rw [found]
      intro handle tracked heldEq
      cases handsOver found handle tracked heldEq

/-- No value is left, and no method is under way. -/
def World.Complete (world : World Call Answer Handle Resident) : Prop :=
  ∀ index, world.slots index = .unused ∨ world.slots index = .consumed

theorem Component.Reclaims.isLive_of_complete (reclaims : component.Reclaims world)
    (complete : world.Complete) {handle : Handle} (tracked : component.tracked handle = true) :
    component.isLive handle world.log = false := by
  by_contra live
  obtain ⟨index, heldEq⟩ := reclaims.held handle tracked (by simpa using live)
  rcases complete index with unused | consumed
  · rw [unused] at heldEq
    cases heldEq
  · rw [consumed] at heldEq
    cases heldEq

end Settling

inductive Use where
  | granted
  | released
  deriving DecidableEq, Repr

/-- When a handle was granted and released, newest first. -/
def uses [DecidableEq Handle] (grants : (call : Call) → Answer call → Option Handle)
    (releases : Call → Option Handle) (handle : Handle) : List (Entry Call Answer) → List Use
  | [] => []
  | entry :: older =>
      if grants entry.call entry.answer = some handle then
        .granted :: uses grants releases handle older
      else if releases entry.call = some handle then
        .released :: uses grants releases handle older
      else uses grants releases handle older

/-- Granted and released, so many times. -/
def rounds (count : Nat) : List Use :=
  (List.replicate count [Use.released, .granted]).flatten

@[simp]
theorem rounds_succ (count : Nat) :
    rounds (count + 1) = .released :: .granted :: rounds count := by
  simp [rounds, List.replicate_succ]

theorem count_rounds (count : Nat) :
    (rounds count).count .granted = (rounds count).count .released := by
  induction count with
  | zero => rfl
  | succ count ih => simp [ih]

section Uses

variable [DecidableEq Handle]
  {component : Component Call Answer Handle Resident Posting Operation}
  {log : List (Entry Call Answer)} {handle : Handle}

/-- Grants and releases alternate, and the last use tells whether the handle is
handed out. -/
theorem uses_of_linear (tracked : component.tracked handle = true)
    (used : component.UsedWhileLive log) (granted : component.GrantedWhileFree log) :
    ∃ count, uses component.grants component.releases handle log =
      if component.isLive handle log then .granted :: rounds count else rounds count := by
  induction log with
  | nil => exact ⟨0, rfl⟩
  | cons entry older ih =>
      obtain ⟨count, earlier⟩ := ih used.2 granted.2
      rw [uses, Component.isLive]
      by_cases grants : component.grants entry.call entry.answer = some handle
      · have free := granted.1 handle tracked grants
        refine ⟨count, ?_⟩
        rw [earlier, free, if_pos grants, if_pos (show component.granted entry = _ from grants)]
        rfl
      · rw [if_neg grants, if_neg (show ¬ component.granted entry = _ from grants)]
        by_cases releases : component.releases entry.call = some handle
        · have live := used.1 handle tracked (component.names_of_releases releases)
          refine ⟨count + 1, ?_⟩
          rw [earlier, live, if_pos releases, if_pos releases, rounds_succ]
          rfl
        · rw [if_neg releases, if_neg releases]
          exact ⟨count, earlier⟩

theorem uses_of_complete {world : World Call Answer Handle Resident}
    (linear : component.Linear world) (reclaims : component.Reclaims world)
    (complete : world.Complete) (tracked : component.tracked handle = true) :
    ∃ count, uses component.grants component.releases handle world.log = rounds count := by
  obtain ⟨count, alternate⟩ := uses_of_linear tracked linear.used reclaims.granted
  rw [reclaims.isLive_of_complete complete tracked] at alternate
  exact ⟨count, alternate⟩

/-- The library grants what the component follows, and possibly more. -/
structure Component.GrantsWithin
    (component : Component Call Answer Handle Resident Posting Operation)
    (all : (call : Call) → Answer call → Option Handle) : Prop where
  within : ∀ {call answer handle}, component.grants call answer = some handle →
    all call answer = some handle
  of_releases : ∀ {call handle}, component.releases call = some handle →
    ∀ answer, all call answer = none

variable {all : (call : Call) → Answer call → Option Handle}

/-- A handle that a component follows to be handed out was last granted. -/
theorem head_uses_of_isLive (within : component.GrantsWithin all)
    (live : component.isLive handle log = true) :
    (uses all component.releases handle log).head? = some .granted := by
  induction log with
  | nil => cases live
  | cons entry older ih =>
      rw [uses]
      rcases isLive_cons live with granted | ⟨kept, liveBefore⟩
      · rw [if_pos (within.within granted)]
        rfl
      · rw [if_neg kept]
        split_ifs
        · rfl
        · exact ih liveBefore

/-- The grant went to a value of the component, or to none. -/
def Component.Forgets (component : Component Call Answer Handle Resident Posting Operation)
    (all : (call : Call) → Answer call → Option Handle) (handle : Handle)
    (entry : Entry Call Answer) : Bool :=
  decide (all entry.call entry.answer = some handle) &&
    !decide (component.granted entry = some handle)

theorem not_releases_of_all (within : component.GrantsWithin all) {entry : Entry Call Answer}
    (taken : all entry.call entry.answer = some handle) :
    ¬ component.releases entry.call = some handle := by
  intro released
  rw [within.of_releases released] at taken
  cases taken

theorem count_granted_uses (within : component.GrantsWithin all) :
    (uses all component.releases handle log).count .granted =
      (uses component.grants component.releases handle log).count .granted +
        log.countP (component.Forgets all handle) := by
  induction log with
  | nil => rfl
  | cons entry older ih =>
      rw [uses, uses, List.countP_cons, Component.Forgets]
      by_cases followed : component.grants entry.call entry.answer = some handle
      · have granted : component.granted entry = some handle := followed
        rw [if_pos (within.within followed), if_pos followed, List.count_cons_self,
          List.count_cons_self, ih]
        simp only [granted, decide_true, Bool.not_true, Bool.and_false, Bool.false_eq_true,
          if_false]
        omega
      · have ungranted : ¬ component.granted entry = some handle := followed
        rw [if_neg followed]
        by_cases taken : all entry.call entry.answer = some handle
        · rw [if_pos taken, if_neg (not_releases_of_all within taken), List.count_cons_self, ih]
          simp only [taken, ungranted, decide_true, decide_false, Bool.not_false,
            Bool.and_self, if_true]
          omega
        · rw [if_neg taken]
          simp only [taken, decide_false, Bool.false_and, Bool.false_eq_true, if_false]
          split_ifs
          · simpa using ih
          · exact ih

theorem count_released_uses (within : component.GrantsWithin all) :
    (uses all component.releases handle log).count .released =
      (uses component.grants component.releases handle log).count .released := by
  induction log with
  | nil => rfl
  | cons entry older ih =>
      rw [uses, uses]
      by_cases followed : component.grants entry.call entry.answer = some handle
      · rw [if_pos (within.within followed), if_pos followed]
        simpa using ih
      · rw [if_neg followed]
        by_cases taken : all entry.call entry.answer = some handle
        · rw [if_pos taken, if_neg (not_releases_of_all within taken)]
          simpa using ih
        · rw [if_neg taken]
          split_ifs
          · simpa using ih
          · exact ih

/-- Where the component follows every grant of a handle, it sees all its uses. -/
theorem uses_eq_of_followed (within : component.GrantsWithin all)
    (followed : ∀ entry ∈ log, all entry.call entry.answer = some handle →
      component.granted entry = some handle) :
    uses all component.releases handle log =
      uses component.grants component.releases handle log := by
  induction log with
  | nil => rfl
  | cons entry older ih =>
      have rest := ih fun other member => followed other (List.mem_cons_of_mem _ member)
      have same : all entry.call entry.answer = some handle ↔
          component.grants entry.call entry.answer = some handle :=
        ⟨followed entry List.mem_cons_self, within.within⟩
      simp only [uses, same, rest]

/-- When no value is left, every handle that was granted has been released, and was
released once for each grant, exactly if the component followed every grant. -/
theorem all_rounds_iff {world : World Call Answer Handle Resident}
    (within : component.GrantsWithin all) (linear : component.Linear world)
    (reclaims : component.Reclaims world) (complete : world.Complete) :
    (∀ handle, component.tracked handle = true →
        ∃ count, uses all component.releases handle world.log = rounds count) ↔
      ∀ entry ∈ world.log, ∀ handle, component.tracked handle = true →
        all entry.call entry.answer = some handle → component.granted entry = some handle := by
  constructor
  · intro balanced entry member handle tracked taken
    obtain ⟨count, allRounds⟩ := balanced handle tracked
    obtain ⟨followedCount, followedRounds⟩ := uses_of_complete linear reclaims complete tracked
    have granted := @count_granted_uses _ _ _ _ _ _ _ component world.log handle all within
    have released := @count_released_uses _ _ _ _ _ _ _ component world.log handle all within
    rw [allRounds, followedRounds] at granted released
    have allCounts := count_rounds count
    have followedCounts := count_rounds followedCount
    have none : world.log.countP (component.Forgets all handle) = 0 := by omega
    have kept := List.countP_eq_zero.mp none entry member
    by_contra forgotten
    apply kept
    simp [Component.Forgets, taken, forgotten]
  · intro followed handle tracked
    rw [uses_eq_of_followed within fun entry member => followed entry member handle tracked]
    exact uses_of_complete linear reclaims complete tracked

/-- Every release is of a handle that was granted last. -/
theorem head_uses_of_release {world : World Call Answer Handle Resident}
    (within : component.GrantsWithin all) (linear : component.Linear world)
    {newer older : List (Entry Call Answer)} {entry : Entry Call Answer}
    (split : world.log = newer ++ entry :: older) (tracked : component.tracked handle = true)
    (released : component.releases entry.call = some handle) :
    (uses all component.releases handle older).head? = some .granted := by
  have used := linear.used
  rw [split] at used
  apply head_uses_of_isLive within
  exact (usedWhileLive_of_append used).1 handle tracked (component.names_of_releases released)

end Uses

end HandleOwnership
