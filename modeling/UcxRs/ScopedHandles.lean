import UcxRs.TransitionRuns
import Mathlib.Logic.Function.Basic

/-!
# Handles of objects that live in scopes

A foreign library opens scopes and, in them, objects, and names both by handles.  A
wrapper value holds the handles, and nothing else connects it to what it names: when a
scope ends its objects end with it, the values do not notice, and the library is free to
give the same handles out again.

A value may be used soundly as long as its handles stand for what they were given out
for.  The law of this file says when that is: exactly as long as the scope value that
the object was opened through has not been dropped.
-/

namespace ScopedHandles

open TransitionRuns

variable {Scope Object : Type}

/-- What the library has open.  Scopes are numbered as they are opened, and an object
belongs to the scope of its number. -/
structure Tables (Scope Object : Type) where
  scopes : Scope → Option Nat
  objects : Object → Option Nat

/-- A value that names an object: its handle, the handle of its scope and, for the
record, the number of the scope. -/
structure Child (Scope Object : Type) where
  object : Object
  scope : Scope
  number : Nat
  deriving DecidableEq, Repr

/-- The tables, the scope values by number and the object values by slot. -/
structure World (Scope Object : Type) where
  tables : Tables Scope Object
  scopes : Nat → Option Scope
  opened : Nat
  children : Nat → Option (Child Scope Object)

def World.initial : World Scope Object where
  tables := ⟨fun _ => none, fun _ => none⟩
  scopes := fun _ => none
  opened := 0
  children := fun _ => none

/-- A scope is opened, used or its value dropped; an object is opened in a scope, or
through an object of the scope, used, or its value dropped; the value of an object is
given up without a word to the library; or an object is used together with the value of
some scope, and perhaps dropped there. -/
inductive Label (Scope Object : Type) where
  | openScope (scope : Scope)
  | useScope (number : Nat)
  | dropScope (number : Nat)
  | openObject (number slot : Nat) (object : Object)
  | derive (slot target : Nat) (object : Object)
  | use (slot : Nat)
  | dropObject (slot : Nat)
  | forget (slot : Nat)
  | join (number slot : Nat)
  | joinDrop (number slot : Nat)

/-- No open scope has an object of this handle. -/
def World.isFresh (world : World Scope Object) (object : Object) : Bool :=
  match world.tables.objects object with
  | none => true
  | some number => (world.scopes number).isNone

/-- The library gives out no handle that stands for something open. -/
def step [DecidableEq Scope] [DecidableEq Object] (world : World Scope Object) :
    Label Scope Object → Option (World Scope Object)
  | .openScope scope =>
      if world.tables.scopes scope = none then
        some { world with
          tables := { world.tables with
            scopes := Function.update world.tables.scopes scope (some world.opened) }
          scopes := Function.update world.scopes world.opened (some scope)
          opened := world.opened + 1 }
      else none
  | .useScope number => (world.scopes number).map fun _ => world
  | .dropScope number =>
      (world.scopes number).map fun scope =>
        { world with
          tables := { world.tables with
            scopes := Function.update world.tables.scopes scope none }
          scopes := Function.update world.scopes number none }
  | .openObject number slot object =>
      if world.children slot = none ∧ world.isFresh object then
        (world.scopes number).map fun scope =>
          { world with
            tables := { world.tables with
              objects := Function.update world.tables.objects object (some number) }
            children := Function.update world.children slot (some ⟨object, scope, number⟩) }
      else none
  | .derive slot target object =>
      if world.children target = none ∧ world.isFresh object then
        (world.children slot).map fun child =>
          { world with
            tables := { world.tables with
              objects := Function.update world.tables.objects object (some child.number) }
            children := Function.update world.children target
              (some ⟨object, child.scope, child.number⟩) }
      else none
  | .use slot => (world.children slot).map fun _ => world
  | .dropObject slot =>
      (world.children slot).map fun child =>
        { world with
          tables := { world.tables with
            objects := Function.update world.tables.objects child.object none }
          children := Function.update world.children slot none }
  | .forget slot =>
      (world.children slot).map fun _ =>
        { world with children := Function.update world.children slot none }
  | .join number slot =>
      if (world.scopes number).isSome then (world.children slot).map fun _ => world else none
  | .joinDrop number slot =>
      if (world.scopes number).isSome then
        (world.children slot).map fun child =>
          { world with
            tables := { world.tables with
              objects := Function.update world.tables.objects child.object none }
            children := Function.update world.children slot none }
      else none

/-- The handles of the value stand for the object and the scope of its record. -/
structure Names (tables : Tables Scope Object) (child : Child Scope Object) : Prop where
  object : tables.objects child.object = some child.number
  scope : tables.scopes child.scope = some child.number

/-- The object belongs to the scope of this number. -/
def Matches (world : World Scope Object) (number slot : Nat) : Prop :=
  ∀ child scope, world.children slot = some child → world.scopes number = some scope →
    Names world.tables child ∧ world.tables.scopes scope = some child.number

/-- What the library is given in a step stands for what it was given out for. -/
def Sound (world : World Scope Object) : Label Scope Object → Prop
  | .openScope _ => True
  | .useScope number => ∀ scope, world.scopes number = some scope →
      world.tables.scopes scope = some number
  | .dropScope number => ∀ scope, world.scopes number = some scope →
      world.tables.scopes scope = some number
  | .openObject number _ _ => ∀ scope, world.scopes number = some scope →
      world.tables.scopes scope = some number
  | .derive slot _ _ => ∀ child, world.children slot = some child → Names world.tables child
  | .use slot => ∀ child, world.children slot = some child → Names world.tables child
  | .forget _ => True
  | .dropObject slot => ∀ child, world.children slot = some child → Names world.tables child
  | .join number slot => Matches world number slot
  | .joinDrop number slot => Matches world number slot

/-- An object is used and dropped while the value of its scope is there, and joined with
no other scope. -/
def Disciplined (world : World Scope Object) : Label Scope Object → Prop
  | .derive slot _ _ => ∀ child, world.children slot = some child →
      (world.scopes child.number).isSome
  | .use slot => ∀ child, world.children slot = some child →
      (world.scopes child.number).isSome
  | .dropObject slot => ∀ child, world.children slot = some child →
      (world.scopes child.number).isSome
  | .join number slot => ∀ child, world.children slot = some child → number = child.number
  | .joinDrop number slot => ∀ child, world.children slot = some child →
      number = child.number
  | _ => True

/-- Scope values are dropped when no value of their objects is left. -/
def DropsEmpty (world : World Scope Object) : Label Scope Object → Prop
  | .dropScope number => ∀ slot child, world.children slot = some child →
      child.number ≠ number
  | .join number slot => ∀ child, world.children slot = some child → number = child.number
  | .joinDrop number slot => ∀ child, world.children slot = some child →
      number = child.number
  | _ => True

/-- The scope values are entered in the table, and nothing else is. -/
def Inverse (values : Nat → Option Scope) (table : Scope → Option Nat) : Prop :=
  ∀ number scope, values number = some scope ↔ table scope = some number

namespace Inverse

variable [DecidableEq Scope] {values : Nat → Option Scope} {table : Scope → Option Nat}
  {number : Nat} {scope : Scope}

theorem insert (inverse : Inverse values table) (unused : values number = none)
    (fresh : table scope = none) :
    Inverse (Function.update values number (some scope))
      (Function.update table scope (some number)) := by
  intro other handle
  by_cases sameNumber : other = number
  · subst sameNumber
    by_cases sameScope : handle = scope
    · subst sameScope
      simp
    · have absent : table handle ≠ some other := by
        rw [Ne, ← inverse, unused]
        simp
      simp [Function.update_of_ne sameScope, absent, Ne.symm sameScope]
  · by_cases sameScope : handle = scope
    · subst sameScope
      have absent : values other ≠ some handle := by
        rw [Ne, inverse, fresh]
        simp
      simp [Function.update_of_ne sameNumber, absent, Ne.symm sameNumber]
    · rw [Function.update_of_ne sameNumber, Function.update_of_ne sameScope]
      exact inverse other handle

theorem erase (inverse : Inverse values table) (found : values number = some scope) :
    Inverse (Function.update values number none) (Function.update table scope none) := by
  have entered := (inverse number scope).mp found
  intro other handle
  by_cases sameNumber : other = number
  · subst sameNumber
    by_cases sameScope : handle = scope
    · subst sameScope
      simp
    · have absent : table handle ≠ some other := by
        rw [Ne, ← inverse, found]
        exact fun same => sameScope (Option.some.inj same).symm
      simp [Function.update_of_ne sameScope, absent]
  · by_cases sameScope : handle = scope
    · subst sameScope
      have absent : values other ≠ some handle := by
        rw [Ne, inverse, entered]
        exact fun same => sameNumber (Option.some.inj same).symm
      simp [Function.update_of_ne sameNumber, absent]
    · rw [Function.update_of_ne sameNumber, Function.update_of_ne sameScope]
      exact inverse other handle

end Inverse

section Invariant

variable {world next : World Scope Object} {label : Label Scope Object}

/-- The value of the object's scope is there. -/
def World.IsOpen (world : World Scope Object) (child : Child Scope Object) : Prop :=
  (world.scopes child.number).isSome

structure Invariant (world : World Scope Object) : Prop where
  scopes : Inverse world.scopes world.tables.scopes
  numbers : ∀ number, world.opened ≤ number → world.scopes number = none
  childNumbers : ∀ slot child, world.children slot = some child → child.number < world.opened
  named : ∀ slot child, world.children slot = some child → world.IsOpen child →
    Names world.tables child
  distinct : ∀ first second child other, world.children first = some child →
    world.children second = some other → world.IsOpen child → world.IsOpen other →
      child.object = other.object → first = second

theorem invariant_initial : Invariant (World.initial : World Scope Object) where
  scopes _ _ := by simp [World.initial]
  numbers _ _ := rfl
  childNumbers _ _ found := by cases found
  named _ _ found := by cases found
  distinct _ _ _ _ found := by cases found

/-- Handles that name an open scope say that its value is there. -/
theorem Invariant.names_iff (invariant : Invariant world) {slot : Nat}
    {child : Child Scope Object} (found : world.children slot = some child) :
    Names world.tables child ↔ world.IsOpen child := by
  constructor
  · intro names
    exact Option.isSome_iff_exists.mpr
      ⟨child.scope, (invariant.scopes child.number child.scope).mpr names.scope⟩
  · exact invariant.named slot child found

/-- A fresh handle is that of no object in an open scope. -/
theorem Invariant.object_ne (invariant : Invariant world) {slot : Nat}
    {child : Child Scope Object} (found : world.children slot = some child)
    (isOpen : world.IsOpen child) {object : Object} (fresh : world.isFresh object = true) :
    child.object ≠ object := by
  rintro rfl
  have entered := (invariant.named slot child found isOpen).object
  unfold World.isFresh at fresh
  rw [entered] at fresh
  have closed : (world.scopes child.number).isNone = true := fresh
  have open_ : (world.scopes child.number).isSome = true := isOpen
  rw [Option.isNone_iff_eq_none.mp closed] at open_
  cases open_

/-- The values of objects are outlived by those of their scopes. -/
def AllOpen (world : World Scope Object) : Prop :=
  ∀ slot child, world.children slot = some child → world.IsOpen child

theorem AllOpen.disciplined (allOpen : AllOpen world) (dropsEmpty : DropsEmpty world label) :
    Disciplined world label := by
  cases label with
  | openScope scope => trivial
  | useScope number => trivial
  | dropScope number => trivial
  | openObject number slot object => trivial
  | derive slot target object => exact allOpen slot
  | use slot => exact allOpen slot
  | dropObject slot => exact allOpen slot
  | forget slot => trivial
  | join number slot => exact dropsEmpty
  | joinDrop number slot => exact dropsEmpty

section ScopeSteps

variable [DecidableEq Scope]

theorem Invariant.openScope (invariant : Invariant world) {scope : Scope}
    (fresh : world.tables.scopes scope = none) :
    Invariant { world with
      tables := { world.tables with
        scopes := Function.update world.tables.scopes scope (some world.opened) }
      scopes := Function.update world.scopes world.opened (some scope)
      opened := world.opened + 1 } := by
  have unused := invariant.numbers world.opened (Nat.le_refl _)
  have older : ∀ {slot child}, world.children slot = some child →
      child.number ≠ world.opened := fun found =>
    Nat.ne_of_lt (invariant.childNumbers _ _ found)
  have stillOpen : ∀ {slot child}, world.children slot = some child →
      (Function.update world.scopes world.opened (some scope) child.number).isSome →
        world.IsOpen child := by
    intro slot child found isOpen
    rw [Function.update_of_ne (older found)] at isOpen
    exact isOpen
  constructor
  · exact invariant.scopes.insert unused fresh
  · intro number later
    have different : number ≠ world.opened := by
      have bound : world.opened + 1 ≤ number := later
      omega
    refine (Function.update_of_ne different _ _).trans (invariant.numbers number ?_)
    exact Nat.le_of_succ_le later
  · intro slot child found
    exact Nat.lt_succ_of_lt (invariant.childNumbers slot child found)
  · intro slot child found isOpen
    have names := invariant.named slot child found (stillOpen found isOpen)
    refine ⟨names.object, ?_⟩
    have different : child.scope ≠ scope := by
      rintro rfl
      cases names.scope.symm.trans fresh
    exact (Function.update_of_ne different _ _).trans names.scope
  · intro first second child other found foundOther isOpen isOpenOther
    exact invariant.distinct first second child other found foundOther
      (stillOpen found isOpen) (stillOpen foundOther isOpenOther)

theorem Invariant.dropScope (invariant : Invariant world) {number : Nat} {scope : Scope}
    (found : world.scopes number = some scope) :
    Invariant { world with
      tables := { world.tables with
        scopes := Function.update world.tables.scopes scope none }
      scopes := Function.update world.scopes number none } := by
  have wasOpen : ∀ {child : Child Scope Object},
      (Function.update world.scopes number none child.number).isSome →
        child.number ≠ number ∧ world.IsOpen child := by
    intro child isOpen
    by_cases same : child.number = number
    · rw [same, Function.update_self] at isOpen
      cases isOpen
    · rw [Function.update_of_ne same] at isOpen
      exact ⟨same, isOpen⟩
  constructor
  · exact invariant.scopes.erase found
  · intro other later
    by_cases same : other = number
    · subst same
      exact Function.update_self ..
    · exact (Function.update_of_ne same _ _).trans (invariant.numbers other later)
  · exact invariant.childNumbers
  · intro slot child foundChild isOpen
    obtain ⟨different, before⟩ := wasOpen isOpen
    have names := invariant.named slot child foundChild before
    refine ⟨names.object, ?_⟩
    have entered := (invariant.scopes number scope).mp found
    have differs : child.scope ≠ scope := by
      rintro rfl
      exact different (Option.some.inj (names.scope.symm.trans entered))
    exact (Function.update_of_ne differs _ _).trans names.scope
  · intro first second child other foundChild foundOther isOpen isOpenOther
    exact invariant.distinct first second child other foundChild foundOther
      (wasOpen isOpen).2 (wasOpen isOpenOther).2

end ScopeSteps

theorem child_of_erase {slot index : Nat} {child : Child Scope Object}
    (here : Function.update world.children slot none index = some child) :
    index ≠ slot ∧ world.children index = some child := by
  by_cases same : index = slot
  · rw [same, Function.update_self] at here
    cases here
  · rw [Function.update_of_ne same] at here
    exact ⟨same, here⟩

theorem child_of_insert {slot index : Nat} {child other : Child Scope Object}
    (here : Function.update world.children slot (some child) index = some other) :
    (index = slot ∧ other = child) ∨ (index ≠ slot ∧ world.children index = some other) := by
  by_cases same : index = slot
  · rw [same, Function.update_self] at here
    exact .inl ⟨same, (Option.some.inj here).symm⟩
  · rw [Function.update_of_ne same] at here
    exact .inr ⟨same, here⟩

/-- A value that is given up leaves its object in the table. -/
theorem Invariant.forget (invariant : Invariant world) (slot : Nat) :
    Invariant { world with children := Function.update world.children slot none } := by
  constructor
  · exact invariant.scopes
  · exact invariant.numbers
  · exact fun index child here => invariant.childNumbers index child (child_of_erase here).2
  · exact fun index child here => invariant.named index child (child_of_erase here).2
  · intro first second child other here hereOther
    exact invariant.distinct first second child other (child_of_erase here).2
      (child_of_erase hereOther).2

/-- The scope of an object of an open scope is that of the value of its number. -/
theorem Invariant.scope_of_isOpen (invariant : Invariant world) {slot : Nat}
    {child : Child Scope Object} (found : world.children slot = some child)
    (isOpen : world.IsOpen child) : world.scopes child.number = some child.scope :=
  (invariant.scopes child.number child.scope).mpr (invariant.named slot child found isOpen).scope

theorem AllOpen.insert (allOpen : AllOpen world) {slot : Nat} {child : Child Scope Object}
    (isOpen : (world.scopes child.number).isSome) (index : Nat) (other : Child Scope Object)
    (here : Function.update world.children slot (some child) index = some other) :
    (world.scopes other.number).isSome := by
  rcases child_of_insert here with ⟨rfl, rfl⟩ | ⟨-, old⟩
  · exact isOpen
  · exact allOpen index other old

theorem AllOpen.erase (allOpen : AllOpen world) (slot index : Nat) (other : Child Scope Object)
    (here : Function.update world.children slot none index = some other) :
    (world.scopes other.number).isSome :=
  allOpen index other (child_of_erase here).2

theorem Invariant.matches_iff (invariant : Invariant world) {number slot : Nat}
    (isOpen : (world.scopes number).isSome) :
    Matches world number slot ↔
      ∀ child, world.children slot = some child → number = child.number := by
  obtain ⟨scope, here⟩ := Option.isSome_iff_exists.mp isOpen
  have entered := (invariant.scopes number scope).mp here
  refine forall_congr' fun child => ?_
  constructor
  · intro sound found
    obtain ⟨-, same⟩ := sound scope found here
    exact Option.some.inj (entered.symm.trans same)
  · intro disciplined other found isScope
    obtain rfl : scope = other := Option.some.inj (here.symm.trans isScope)
    have same := disciplined found
    refine ⟨(invariant.names_iff found).mpr ?_, entered.trans (congrArg some same)⟩
    rw [World.IsOpen, ← same]
    exact isOpen

section ObjectSteps

variable [DecidableEq Object]

theorem Invariant.openObject (invariant : Invariant world) {number slot : Nat}
    {object : Object} {scope : Scope} (found : world.scopes number = some scope)
    (fresh : world.isFresh object = true) :
    Invariant { world with
      tables := { world.tables with
        objects := Function.update world.tables.objects object (some number) }
      children := Function.update world.children slot (some ⟨object, scope, number⟩) } := by
  constructor
  · exact invariant.scopes
  · exact invariant.numbers
  · intro index child here
    rcases child_of_insert here with ⟨rfl, rfl⟩ | ⟨-, old⟩
    · by_contra beyond
      have closed := invariant.numbers number (Nat.le_of_not_lt beyond)
      cases found.symm.trans closed
    · exact invariant.childNumbers index child old
  · intro index child here isOpen
    rcases child_of_insert here with ⟨rfl, rfl⟩ | ⟨-, old⟩
    · exact ⟨Function.update_self .., (invariant.scopes number scope).mp found⟩
    · have names := invariant.named index child old isOpen
      refine ⟨?_, names.scope⟩
      have different := invariant.object_ne old isOpen fresh
      exact (Function.update_of_ne different _ _).trans names.object
  · intro first second child other here hereOther isOpen isOpenOther same
    rcases child_of_insert here with ⟨rfl, rfl⟩ | ⟨-, old⟩
    · rcases child_of_insert hereOther with ⟨rfl, rfl⟩ | ⟨-, oldOther⟩
      · rfl
      · exact absurd same.symm (invariant.object_ne oldOther isOpenOther fresh)
    · rcases child_of_insert hereOther with ⟨rfl, rfl⟩ | ⟨-, oldOther⟩
      · exact absurd same (invariant.object_ne old isOpen fresh)
      · exact invariant.distinct first second child other old oldOther isOpen isOpenOther same

theorem Invariant.dropObject (invariant : Invariant world) {slot : Nat}
    {child : Child Scope Object} (found : world.children slot = some child)
    (isOpen : world.IsOpen child) :
    Invariant { world with
      tables := { world.tables with
        objects := Function.update world.tables.objects child.object none }
      children := Function.update world.children slot none } := by
  constructor
  · exact invariant.scopes
  · exact invariant.numbers
  · exact fun index other here => invariant.childNumbers index other (child_of_erase here).2
  · intro index other here isOpenOther
    obtain ⟨different, old⟩ := child_of_erase here
    have names := invariant.named index other old isOpenOther
    refine ⟨?_, names.scope⟩
    have differs : other.object ≠ child.object := fun same =>
      different (invariant.distinct index slot other child old found isOpenOther isOpen same)
    exact (Function.update_of_ne differs _ _).trans names.object
  · intro first second one other here hereOther isOpenOne isOpenOther
    exact invariant.distinct first second one other (child_of_erase here).2
      (child_of_erase hereOther).2 isOpenOne isOpenOther

end ObjectSteps

variable [DecidableEq Scope] [DecidableEq Object]

theorem Invariant.agree (invariant : Invariant world) (stepEq : step world label = some next) :
    Sound world label ↔ Disciplined world label := by
  cases label with
  | openScope scope => exact Iff.rfl
  | useScope number => exact iff_of_true (fun scope => (invariant.scopes number scope).mp) trivial
  | dropScope number => exact iff_of_true (fun scope => (invariant.scopes number scope).mp) trivial
  | openObject number slot object =>
      exact iff_of_true (fun scope => (invariant.scopes number scope).mp) trivial
  | derive slot target object =>
      exact forall_congr' fun child => forall_congr' fun found => invariant.names_iff found
  | use slot =>
      exact forall_congr' fun child => forall_congr' fun found => invariant.names_iff found
  | forget slot => exact Iff.rfl
  | dropObject slot =>
      exact forall_congr' fun child => forall_congr' fun found => invariant.names_iff found
  | join number slot =>
      obtain ⟨isOpen, -⟩ := Option.ite_none_right_eq_some.mp stepEq
      exact invariant.matches_iff isOpen
  | joinDrop number slot =>
      obtain ⟨isOpen, -⟩ := Option.ite_none_right_eq_some.mp stepEq
      exact invariant.matches_iff isOpen

/-- A disciplined step keeps the invariant. -/
theorem Invariant.step (invariant : Invariant world) (disciplined : Disciplined world label)
    (stepEq : step world label = some next) : Invariant next := by
  cases label with
  | openScope scope =>
      obtain ⟨fresh, opened⟩ := Option.ite_none_right_eq_some.mp stepEq
      cases opened
      exact invariant.openScope fresh
  | useScope number =>
      obtain ⟨scope, found, rfl⟩ := Option.map_eq_some_iff.mp stepEq
      exact invariant
  | dropScope number =>
      obtain ⟨scope, found, rfl⟩ := Option.map_eq_some_iff.mp stepEq
      exact invariant.dropScope found
  | openObject number slot object =>
      obtain ⟨⟨-, fresh⟩, opened⟩ := Option.ite_none_right_eq_some.mp stepEq
      obtain ⟨scope, found, rfl⟩ := Option.map_eq_some_iff.mp opened
      exact invariant.openObject found fresh
  | derive slot target object =>
      obtain ⟨⟨-, fresh⟩, opened⟩ := Option.ite_none_right_eq_some.mp stepEq
      obtain ⟨child, found, rfl⟩ := Option.map_eq_some_iff.mp opened
      have isScope := invariant.scope_of_isOpen found (disciplined child found)
      exact invariant.openObject isScope fresh
  | use slot =>
      obtain ⟨child, found, rfl⟩ := Option.map_eq_some_iff.mp stepEq
      exact invariant
  | dropObject slot =>
      obtain ⟨child, found, rfl⟩ := Option.map_eq_some_iff.mp stepEq
      exact invariant.dropObject found (disciplined child found)
  | forget slot =>
      obtain ⟨child, found, rfl⟩ := Option.map_eq_some_iff.mp stepEq
      exact invariant.forget slot
  | join number slot =>
      obtain ⟨-, joined⟩ := Option.ite_none_right_eq_some.mp stepEq
      obtain ⟨child, found, rfl⟩ := Option.map_eq_some_iff.mp joined
      exact invariant
  | joinDrop number slot =>
      obtain ⟨isOpen, joined⟩ := Option.ite_none_right_eq_some.mp stepEq
      obtain ⟨child, found, rfl⟩ := Option.map_eq_some_iff.mp joined
      refine invariant.dropObject found ?_
      rw [World.IsOpen, ← disciplined child found]
      exact isOpen

theorem AllOpen.step (allOpen : AllOpen world) (invariant : Invariant world)
    (dropsEmpty : DropsEmpty world label) (stepEq : step world label = some next) :
    AllOpen next := by
  cases label with
  | openScope scope =>
      obtain ⟨-, opened⟩ := Option.ite_none_right_eq_some.mp stepEq
      cases opened
      intro slot child found
      have older := Nat.ne_of_lt (invariant.childNumbers slot child found)
      change (Function.update world.scopes world.opened (some scope) child.number).isSome
      rw [Function.update_of_ne older]
      exact allOpen slot child found
  | useScope number =>
      obtain ⟨scope, found, rfl⟩ := Option.map_eq_some_iff.mp stepEq
      exact allOpen
  | dropScope number =>
      obtain ⟨scope, found, rfl⟩ := Option.map_eq_some_iff.mp stepEq
      intro slot child foundChild
      change (Function.update world.scopes number none child.number).isSome
      rw [Function.update_of_ne (dropsEmpty slot child foundChild)]
      exact allOpen slot child foundChild
  | openObject number slot object =>
      obtain ⟨⟨-, fresh⟩, opened⟩ := Option.ite_none_right_eq_some.mp stepEq
      obtain ⟨scope, found, rfl⟩ := Option.map_eq_some_iff.mp opened
      exact allOpen.insert (Option.isSome_iff_exists.mpr ⟨scope, found⟩)
  | derive slot target object =>
      obtain ⟨⟨-, fresh⟩, opened⟩ := Option.ite_none_right_eq_some.mp stepEq
      obtain ⟨child, found, rfl⟩ := Option.map_eq_some_iff.mp opened
      exact allOpen.insert (allOpen slot child found)
  | use slot =>
      obtain ⟨child, found, rfl⟩ := Option.map_eq_some_iff.mp stepEq
      exact allOpen
  | dropObject slot =>
      obtain ⟨child, found, rfl⟩ := Option.map_eq_some_iff.mp stepEq
      exact allOpen.erase slot
  | forget slot =>
      obtain ⟨child, found, rfl⟩ := Option.map_eq_some_iff.mp stepEq
      exact allOpen.erase slot
  | join number slot =>
      obtain ⟨-, joined⟩ := Option.ite_none_right_eq_some.mp stepEq
      obtain ⟨child, found, rfl⟩ := Option.map_eq_some_iff.mp joined
      exact allOpen
  | joinDrop number slot =>
      obtain ⟨-, joined⟩ := Option.ite_none_right_eq_some.mp stepEq
      obtain ⟨child, found, rfl⟩ := Option.map_eq_some_iff.mp joined
      exact allOpen.erase slot

section Laws

variable {State Action : Type} {move : State → Action → Option State}
  {view : State → World Scope Object} {seen : State → Action → Option (Label Scope Object)}

/-- Every move of a system is seen as a step of its handles, or leaves them alone. -/
def Simulates (move : State → Action → Option State) (view : State → World Scope Object)
    (seen : State → Action → Option (Label Scope Object)) : Prop :=
  ∀ state action next, move state action = some next →
    (seen state action = none ∧ view next = view state) ∨
      ∃ label, seen state action = some label ∧ step (view state) label = some (view next)

/-- What is seen of a move meets a condition. -/
def Seen (condition : World Scope Object → Label Scope Object → Prop)
    (view : State → World Scope Object)
    (seen : State → Action → Option (Label Scope Object)) (state : State) (action : Action)
    (_next : State) : Prop :=
  ∀ label, seen state action = some label → condition (view state) label

theorem Simulates.agree (simulates : Simulates move view seen) {state next : State}
    {action : Action} (invariant : Invariant (view state))
    (moved : move state action = some next) :
    Seen Sound view seen state action next ↔ Seen Disciplined view seen state action next := by
  rcases simulates state action next moved with ⟨silent, -⟩ | ⟨label, isSeen, stepEq⟩
  · unfold Seen
    rw [silent]
    exact iff_of_true (fun _ absent => by cases absent) fun _ absent => by cases absent
  · have agree := invariant.agree stepEq
    constructor
    · intro sound other isOther
      obtain rfl := Option.some.inj (isSeen.symm.trans isOther)
      exact agree.mp (sound label isSeen)
    · intro disciplined other isOther
      obtain rfl := Option.some.inj (isSeen.symm.trans isOther)
      exact agree.mpr (disciplined label isSeen)

theorem Simulates.invariant (simulates : Simulates move view seen) {state next : State}
    {action : Action} (invariant : Invariant (view state))
    (disciplined : Seen Disciplined view seen state action next)
    (moved : move state action = some next) : Invariant (view next) := by
  rcases simulates state action next moved with ⟨-, same⟩ | ⟨label, isSeen, stepEq⟩
  · rw [same]
    exact invariant
  · exact invariant.step (disciplined label isSeen) stepEq

/-- In every run of a system the library is given handles that stand for what they were
given out for, exactly if every object is used and dropped before the value of its scope
is dropped, and joined with its own scope. -/
theorem sound_iff_disciplined (simulates : Simulates move view seen) {state : State}
    (begins : view state = World.initial) (run : List Action) :
    EveryStep move (Seen Sound view seen) state run ↔
      EveryStep move (Seen Disciplined view seen) state run := by
  have initially : Invariant (view state) := begins ▸ invariant_initial
  refine @everyStep_congr_of_guarded_invariant _ _ move (fun state => Invariant (view state))
    _ _ (fun invariant sound moved => ?_) (fun invariant moved => ?_) state initially run
  · exact simulates.invariant invariant ((simulates.agree invariant moved).mp sound) moved
  · exact simulates.agree invariant moved

/-- It is enough that the value of a scope is dropped when none of its objects has a
value any more. -/
theorem disciplined_of_dropsEmpty (simulates : Simulates move view seen) {state : State}
    (begins : view state = World.initial) {run : List Action}
    (ordered : EveryStep move (Seen DropsEmpty view seen) state run) :
    EveryStep move (Seen Disciplined view seen) state run := by
  have initially : AllOpen (view state) := by
    rw [begins]
    intro slot child found
    cases found
  have both : EveryStep move (fun before action next =>
      Seen DropsEmpty view seen before action next ∧
        Seen Disciplined view seen before action next) state run := by
    refine (@everyStep_congr_of_guarded_invariant _ _ move
      (fun state => Invariant (view state) ∧ AllOpen (view state)) _ _ ?_ ?_ state
        ⟨begins ▸ invariant_initial, initially⟩ run).mp ordered
    · intro before action next holds dropsEmpty moved
      have disciplined : Seen Disciplined view seen before action next :=
        fun label isSeen => holds.2.disciplined (dropsEmpty label isSeen)
      refine ⟨simulates.invariant holds.1 disciplined moved, ?_⟩
      rcases simulates before action next moved with ⟨-, same⟩ | ⟨label, isSeen, stepEq⟩
      · rw [same]
        exact holds.2
      · exact holds.2.step holds.1 (dropsEmpty label isSeen) stepEq
    · intro before action next holds _
      refine ⟨fun dropsEmpty => ⟨dropsEmpty, fun label isSeen => ?_⟩, fun both => both.1⟩
      exact holds.2.disciplined (dropsEmpty label isSeen)
  exact both.mono fun both => both.2

variable {gives keeps : State → Action → Prop} {facts : State → Prop} {state : State}

/-- The law in a system's own words: what its steps give to the library, and which of them
come in time, perhaps by facts that always hold. -/
theorem gives_iff_keeps (simulates : Simulates move view seen)
    (givesIff : ∀ {state action next}, move state action = some next →
      (gives state action ↔ Seen Sound view seen state action next))
    (keepsIff : ∀ {state action next}, facts state → move state action = some next →
      (keeps state action ↔ Seen Disciplined view seen state action next))
    (preserved : ∀ {state action next}, facts state → move state action = some next →
      facts next)
    (begins : view state = World.initial) (initially : facts state) (run : List Action) :
    EveryStep move (fun state action _ => gives state action) state run ↔
      EveryStep move (fun state action _ => keeps state action) state run := by
  have sound := @everyStep_congr _ _ move (fun state action _ => gives state action) _
    (fun moved => givesIff moved) state run
  have disciplined := @everyStep_congr_of_invariant _ _ move facts
    (fun state action _ => keeps state action) _ (fun holds moved => preserved holds moved)
    (fun holds moved => keepsIff holds moved) state initially run
  exact sound.trans ((sound_iff_disciplined simulates begins run).trans disciplined.symm)

theorem gives_of_ordered {ordered : State → Action → Prop}
    (simulates : Simulates move view seen)
    (givesIff : ∀ {state action next}, move state action = some next →
      (gives state action ↔ Seen Sound view seen state action next))
    (orderedSeen : ∀ {state action next}, ordered state action →
      move state action = some next → Seen DropsEmpty view seen state action next)
    (begins : view state = World.initial) {run : List Action}
    (inOrder : EveryStep move (fun state action _ => ordered state action) state run) :
    EveryStep move (fun state action _ => gives state action) state run := by
  have sound := @everyStep_congr _ _ move (fun state action _ => gives state action) _
    (fun moved => givesIff moved) state run
  have both : EveryStep move (fun state action next =>
      ordered state action ∧ Seen DropsEmpty view seen state action next) state run :=
    (@everyStep_congr _ _ move _ _
      (fun moved => ⟨fun holds => ⟨holds, orderedSeen holds moved⟩, And.left⟩) state run).mp inOrder
  have empties := both.mono And.right
  exact sound.mpr ((sound_iff_disciplined simulates begins run).mpr
    (disciplined_of_dropsEmpty simulates begins empties))

end Laws

end Invariant

end ScopedHandles
