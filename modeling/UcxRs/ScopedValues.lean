import UcxRs.InteractionProgram
import UcxRs.ScopedHandles

/-!
# Code that holds scoped handles

The values of a wrapper hold handles of a foreign library, and their code passes these in
calls.  The library checks nothing: a call that is given a handle acts on whatever has
that handle now, and some calls end it.

A program acts on a value if all of its calls are given the value's handles or none, and
only the last may end something.  What such a program gives to the library is open exactly
if the handles of the value still stand.
-/

namespace ScopedHandles

open Interaction (Environment Program)
open Interaction.Program

inductive Argument (Scope Object : Type) where
  | scope (handle : Scope)
  | object (handle : Object)
  deriving DecidableEq, Repr

/-- What a call hands to the library that must be open, and what it ends. -/
structure Interface (Call Scope Object : Type) where
  arguments : Call → List (Argument Scope Object)
  ended : Call → Option (Argument Scope Object)

/-- An argument stands for the scope of this number, or for an object of it. -/
def Stands {Scope Object : Type} (tables : Tables Scope Object) (scope : Scope)
    (number : Nat) : Argument Scope Object → Prop
  | .scope handle => tables.scopes handle = some number
  | .object object => tables.objects object = some number ∧ tables.scopes scope = some number

namespace Interface

variable {Call Scope Object : Type}

/-- The call ends nothing and is given these arguments or none. -/
def Quiet (interface : Interface Call Scope Object) (given : List (Argument Scope Object))
    (call : Call) : Prop :=
  interface.ended call = none ∧
    (interface.arguments call = [] ∨ interface.arguments call = given)

theorem stand_of_quiet {interface : Interface Call Scope Object}
    {tables : Tables Scope Object} {scope : Scope} {number : Nat}
    {given : List (Argument Scope Object)} {call : Call} (quiet : interface.Quiet given call)
    (stand : ∀ argument ∈ given, Stands tables scope number argument) :
    ∀ argument ∈ interface.arguments call, Stands tables scope number argument := by
  rcases quiet.2 with none | all
  · rw [none]
    exact fun _ absent => by cases absent
  · rw [all]
    exact stand

variable [DecidableEq Scope] [DecidableEq Object]

def serve (interface : Interface Call Scope Object) (tables : Tables Scope Object)
    (call : Call) : Tables Scope Object :=
  match interface.ended call with
  | some (.scope scope) =>
      { tables with scopes := Function.update tables.scopes scope none }
  | some (.object object) =>
      { tables with objects := Function.update tables.objects object none }
  | none => tables

/-- Every call is given what is open and belongs to the scope of this number. -/
def Served (interface : Interface Call Scope Object) (scope : Scope) (number : Nat) :
    Tables Scope Object → List Call → Prop
  | _, [] => True
  | tables, call :: rest =>
      (∀ argument ∈ interface.arguments call, Stands tables scope number argument) ∧
        interface.Served scope number (interface.serve tables call) rest

section Calls

variable {interface : Interface Call Scope Object} {tables : Tables Scope Object}
  {scope : Scope} {number : Nat} {given : List (Argument Scope Object)}
  {calls front : List Call}

theorem serve_of_quiet {call : Call} (quiet : interface.Quiet given call) :
    interface.serve tables call = tables := by
  unfold serve
  rw [quiet.1]

theorem serve_of_ends {call : Call} {object : Object}
    (ends : interface.ended call = some (.object object)) :
    interface.serve tables call =
      { tables with objects := Function.update tables.objects object none } := by
  unfold serve
  rw [ends]

theorem foldl_serve_of_quiet (quiet : ∀ call ∈ calls, interface.Quiet given call) :
    calls.foldl interface.serve tables = tables := by
  induction calls with
  | nil => rfl
  | cons call calls ih =>
      rw [List.foldl_cons, serve_of_quiet (quiet call List.mem_cons_self)]
      exact ih fun later member => quiet later (List.mem_cons_of_mem _ member)

theorem served_of_quiet (quiet : ∀ call ∈ calls, interface.Quiet given call)
    (stand : ∀ argument ∈ given, Stands tables scope number argument) :
    interface.Served scope number tables calls := by
  induction calls with
  | nil => trivial
  | cons call calls ih =>
      have first := quiet call List.mem_cons_self
      refine ⟨stand_of_quiet first stand, ?_⟩
      rw [serve_of_quiet first]
      exact ih fun later member => quiet later (List.mem_cons_of_mem _ member)

theorem served_append (first second : List Call) :
    interface.Served scope number tables (first ++ second) ↔
      interface.Served scope number tables first ∧
        interface.Served scope number (first.foldl interface.serve tables) second := by
  induction first generalizing tables with
  | nil => exact (and_iff_right trivial).symm
  | cons call calls ih => exact (and_congr_right fun _ => ih).trans and_assoc.symm

theorem served_singleton {call : Call} (named : interface.arguments call = given) :
    interface.Served scope number tables [call] ↔
      ∀ argument ∈ given, Stands tables scope number argument := by
  unfold Served
  rw [named]
  exact and_iff_left trivial

/-- Quiet calls, the first on the arguments, are served well exactly if these stand. -/
theorem served_iff_of_quiet (quiet : ∀ call ∈ calls, interface.Quiet given call)
    {first : Call} (starts : calls.head? = some first)
    (named : interface.arguments first = given) :
    interface.Served scope number tables calls ↔
      ∀ argument ∈ given, Stands tables scope number argument := by
  refine ⟨fun served => ?_, served_of_quiet quiet⟩
  cases calls with
  | nil => cases starts
  | cons call calls =>
      cases starts
      rw [← named]
      exact served.1

/-- It makes no difference that the last call ends something. -/
theorem served_iff_of_ending (quiet : ∀ call ∈ front, interface.Quiet given call)
    {last : Call} (named : interface.arguments last = given) :
    interface.Served scope number tables (front ++ [last]) ↔
      ∀ argument ∈ given, Stands tables scope number argument := by
  rw [served_append, foldl_serve_of_quiet quiet, served_singleton named]
  exact and_iff_right_of_imp (served_of_quiet quiet)

end Calls

end Interface

section Programs

variable {Call Scope Object Result : Type} {Answer : Call → Type}

/-- The program starts with a call that is given the arguments, and is quiet. -/
structure ActsOn (interface : Interface Call Scope Object)
    (given : List (Argument Scope Object)) (program : Program Call Answer Result) : Prop where
  starts : ∃ call resume, program = .issue call resume ∧ interface.arguments call = given
  quiet : program.EveryCall (interface.Quiet given)

variable {interface : Interface Call Scope Object} {given : List (Argument Scope Object)}
  {program : Program Call Answer Result}

variable {tables : Tables Scope Object} [DecidableEq Scope] [DecidableEq Object]

theorem ActsOn.served_iff (acts : ActsOn interface given program)
    (environment : Environment Call Answer) (scope : Scope) (number : Nat) :
    interface.Served scope number tables (program.execute environment []).calls ↔
      ∀ argument ∈ given, Stands tables scope number argument := by
  obtain ⟨call, resume, rfl, named⟩ := acts.starts
  have quiet : ∀ other ∈ ((Program.issue call resume).execute environment []).calls,
      interface.Quiet given other := fun other member => acts.quiet.of_mem_calls member
  have starts : ((Program.issue call resume).execute environment []).calls.head? =
      some call := by
    cases answered : environment [] call with
    | none => rw [execute_issue_none answered]; rfl
    | some answer => rw [execute_issue_some answered]; rfl
  exact Interface.served_iff_of_quiet quiet starts named

end Programs

/-- A value and the number of the scope that it was opened in. -/
structure Owned (Value : Type) where
  value : Value
  number : Nat
  deriving DecidableEq, Repr

/-- The tables of the library and the values of the program: those of scopes by number,
those of objects by slot. -/
structure Values (Keeper Value Scope Object : Type) where
  tables : Tables Scope Object
  keepers : Nat → Option Keeper
  opened : Nat
  owned : Nat → Option (Owned Value)

/-- The handles that a value holds; the scope of an object need not be one of them. -/
structure Holding (Keeper Value Scope Object : Type) where
  scope : Keeper → Scope
  object : Value → Object
  owner : Value → Scope

def Holding.child {Keeper Value Scope Object : Type}
    (holding : Holding Keeper Value Scope Object) (owned : Owned Value) : Child Scope Object :=
  ⟨holding.object owned.value, holding.owner owned.value, owned.number⟩

namespace Values

variable {Call Keeper Value Scope Object Result : Type} {Answer : Call → Type}
  {holding : Holding Keeper Value Scope Object}

def initial : Values Keeper Value Scope Object where
  tables := ⟨fun _ => none, fun _ => none⟩
  keepers := fun _ => none
  opened := 0
  owned := fun _ => none

/-- No open scope has an object of this handle. -/
def isFresh (world : Values Keeper Value Scope Object) (object : Object) : Bool :=
  match world.tables.objects object with
  | none => true
  | some number => (world.keepers number).isNone

def view (holding : Holding Keeper Value Scope Object)
    (world : Values Keeper Value Scope Object) : World Scope Object where
  tables := world.tables
  scopes number := (world.keepers number).map holding.scope
  opened := world.opened
  children slot := (world.owned slot).map holding.child

variable {world : Values Keeper Value Scope Object} {number slot : Nat}

theorem isFresh_view (object : Object) :
    (view holding world).isFresh object = world.isFresh object := by
  unfold World.isFresh isFresh
  change (match world.tables.objects object with
    | none => true
    | some number => ((world.keepers number).map holding.scope).isNone) = _
  cases world.tables.objects object with
  | none => rfl
  | some number => exact Option.isNone_map

theorem scopes_of_found {keeper : Keeper} (found : world.keepers number = some keeper) :
    (view holding world).scopes number = some (holding.scope keeper) :=
  congrArg (Option.map holding.scope) found

theorem children_of_found {owned : Owned Value} (found : world.owned slot = some owned) :
    (view holding world).children slot = some (holding.child owned) :=
  congrArg (Option.map holding.child) found

theorem isOpen_iff {owned : Owned Value} :
    (view holding world).IsOpen (holding.child owned) ↔ (world.keepers owned.number).isSome := by
  change ((world.keepers owned.number).map holding.scope).isSome ↔ _
  rw [Option.isSome_map]

theorem forall_child {owned : Owned Value} (found : world.owned slot = some owned)
    (condition : Child Scope Object → Prop) :
    (∀ child, (view holding world).children slot = some child → condition child) ↔
      condition (holding.child owned) := by
  rw [children_of_found found]
  exact ⟨fun all => all _ rfl, fun holds child same => Option.some.inj same ▸ holds⟩

theorem matches_iff {keeper : Keeper} {owned : Owned Value}
    (found : world.keepers number = some keeper) (foundValue : world.owned slot = some owned) :
    Matches (view holding world) number slot ↔
      Names world.tables (holding.child owned) ∧
        world.tables.scopes (holding.scope keeper) = some owned.number := by
  have isChild := @children_of_found _ _ _ _ holding _ _ _ foundValue
  have isScope := @scopes_of_found _ _ _ _ holding _ _ _ found
  refine ⟨fun sound => sound _ _ isChild isScope, fun both child scope same sameScope => ?_⟩
  obtain rfl := Option.some.inj (isChild.symm.trans same)
  obtain rfl := Option.some.inj (isScope.symm.trans sameScope)
  exact both

theorem forall_scope {keeper : Keeper} (found : world.keepers number = some keeper)
    (condition : Scope → Prop) :
    (∀ scope, (view holding world).scopes number = some scope → condition scope) ↔
      condition (holding.scope keeper) := by
  rw [scopes_of_found found]
  exact ⟨fun all => all _ rfl, fun holds scope same => Option.some.inj same ▸ holds⟩

theorem keepers_update (keeper : Option Keeper) :
    (fun other => (Function.update world.keepers number keeper other).map holding.scope) =
      Function.update (view holding world).scopes number (keeper.map holding.scope) :=
  Function.comp_update (Option.map holding.scope) world.keepers number keeper

theorem owned_update (owned : Option (Owned Value)) :
    (fun other => (Function.update world.owned slot owned other).map holding.child) =
      Function.update (view holding world).children slot (owned.map holding.child) :=
  Function.comp_update (Option.map holding.child) world.owned slot owned

theorem isFree_view {value : Value} (free : world.owned slot = none)
    (fresh : world.isFresh (holding.object value) = true) :
    (view holding world).children slot = none ∧
      (view holding world).isFresh (holding.object value) = true :=
  ⟨congrArg (Option.map holding.child) free, (isFresh_view _).trans fresh⟩

variable [DecidableEq Scope] [DecidableEq Object]

def addKeeper (holding : Holding Keeper Value Scope Object)
    (world : Values Keeper Value Scope Object) (keeper : Keeper) :
    Values Keeper Value Scope Object where
  tables := { world.tables with
    scopes := Function.update world.tables.scopes (holding.scope keeper) (some world.opened) }
  keepers := Function.update world.keepers world.opened (some keeper)
  opened := world.opened + 1
  owned := world.owned

def addValue (holding : Holding Keeper Value Scope Object)
    (world : Values Keeper Value Scope Object) (number slot : Nat) (value : Value) :
    Values Keeper Value Scope Object :=
  { world with
    tables := { world.tables with
      objects := Function.update world.tables.objects (holding.object value) (some number) }
    owned := Function.update world.owned slot (some ⟨value, number⟩) }

def removeKeeper (world : Values Keeper Value Scope Object) (number : Nat) :
    Values Keeper Value Scope Object :=
  { world with keepers := Function.update world.keepers number none }

def removeValue (world : Values Keeper Value Scope Object) (slot : Nat) :
    Values Keeper Value Scope Object :=
  { world with owned := Function.update world.owned slot none }

/-- The result of a program and the world after its calls, if it comes to an end. -/
def run (interface : Interface Call Scope Object) (world : Values Keeper Value Scope Object)
    (program : Program Call Answer Result) (environment : Environment Call Answer) :
    Option (Result × Values Keeper Value Scope Object) :=
  let execution := program.execute environment []
  execution.result.map fun result =>
    (result, { world with tables := execution.calls.foldl interface.serve world.tables })

theorem view_addKeeper {keeper : Keeper}
    (fresh : world.tables.scopes (holding.scope keeper) = none) :
    step (view holding world) (.openScope (holding.scope keeper)) =
      some (view holding (world.addKeeper holding keeper)) := by
  refine (if_pos fresh).trans (congrArg some ?_)
  unfold view addKeeper
  dsimp only
  rw [keepers_update]
  rfl

theorem view_addValue {keeper : Keeper} {value : Value}
    (found : world.keepers number = some keeper) (free : world.owned slot = none)
    (fresh : world.isFresh (holding.object value) = true)
    (keeps : holding.owner value = holding.scope keeper) :
    step (view holding world) (.openObject number slot (holding.object value)) =
      some (view holding (world.addValue holding number slot value)) := by
  refine (if_pos (isFree_view free fresh)).trans ?_
  rw [scopes_of_found found]
  refine congrArg some ?_
  unfold view addValue
  dsimp only
  rw [owned_update, ← keeps]
  rfl

theorem view_derive {target : Nat} {owned : Owned Value} {value : Value}
    (found : world.owned slot = some owned) (free : world.owned target = none)
    (fresh : world.isFresh (holding.object value) = true)
    (keeps : holding.owner value = holding.owner owned.value) :
    step (view holding world) (.derive slot target (holding.object value)) =
      some (view holding (world.addValue holding owned.number target value)) := by
  refine (if_pos (isFree_view free fresh)).trans ?_
  rw [children_of_found found]
  have childEq : holding.child ⟨value, owned.number⟩ =
      ⟨holding.object value, holding.owner owned.value, owned.number⟩ := by
    unfold Holding.child
    rw [keeps]
  refine congrArg some ?_
  unfold view addValue
  dsimp only
  rw [owned_update, Option.map_some, childEq]
  rfl

theorem view_dropKeeper {keeper : Keeper} (found : world.keepers number = some keeper) :
    step (view holding world) (.dropScope number) =
      some (view holding (removeKeeper { world with
        tables := { world.tables with
          scopes := Function.update world.tables.scopes (holding.scope keeper) none } }
        number)) := by
  change ((view holding world).scopes number).map _ = _
  rw [scopes_of_found found]
  refine congrArg some ?_
  unfold view removeKeeper
  dsimp only
  rw [keepers_update]
  rfl

theorem view_dropValue {owned : Owned Value} (found : world.owned slot = some owned) :
    step (view holding world) (.dropObject slot) =
      some (view holding (removeValue { world with
        tables := { world.tables with
          objects := Function.update world.tables.objects (holding.object owned.value) none } }
        slot)) := by
  change ((view holding world).children slot).map _ = _
  rw [children_of_found found]
  refine congrArg some ?_
  unfold view removeValue
  dsimp only
  rw [owned_update]
  rfl

theorem view_forget {owned : Owned Value} (found : world.owned slot = some owned) :
    step (view holding world) (.forget slot) = some (view holding (world.removeValue slot)) := by
  change ((view holding world).children slot).map _ = _
  rw [children_of_found found]
  refine congrArg some ?_
  unfold view removeValue
  dsimp only
  rw [owned_update]
  rfl

theorem view_useScope {keeper : Keeper} (found : world.keepers number = some keeper) :
    step (view holding world) (.useScope number) = some (view holding world) := by
  change ((view holding world).scopes number).map _ = _
  rw [scopes_of_found found]
  rfl

theorem view_use {owned : Owned Value} (found : world.owned slot = some owned) :
    step (view holding world) (.use slot) = some (view holding world) := by
  change ((view holding world).children slot).map _ = _
  rw [children_of_found found]
  rfl

theorem view_join {keeper : Keeper} {owned : Owned Value}
    (found : world.keepers number = some keeper) (foundValue : world.owned slot = some owned) :
    step (view holding world) (.join number slot) = some (view holding world) := by
  unfold step
  dsimp only
  rw [scopes_of_found found, children_of_found foundValue]
  rfl

theorem view_joinDrop {keeper : Keeper} {owned : Owned Value}
    (found : world.keepers number = some keeper) (foundValue : world.owned slot = some owned) :
    step (view holding world) (.joinDrop number slot) =
      some (view holding (removeValue { world with
        tables := { world.tables with
          objects := Function.update world.tables.objects (holding.object owned.value) none } }
        slot)) := by
  unfold step
  dsimp only
  rw [scopes_of_found found, children_of_found foundValue]
  refine congrArg some ?_
  unfold view removeValue
  dsimp only
  rw [owned_update]
  rfl

/-- A quiet program changes nothing in the tables. -/
theorem run_of_quiet {interface : Interface Call Scope Object}
    {given : List (Argument Scope Object)} {program : Program Call Answer Result}
    {environment : Environment Call Answer} {result : Result}
    {next : Values Keeper Value Scope Object}
    (quiet : program.EveryCall (interface.Quiet given))
    (ran : world.run interface program environment = some (result, next)) :
    (program.execute environment []).result = some result ∧ next = world := by
  obtain ⟨value, resultEq, same⟩ := Option.map_eq_some_iff.mp ran
  cases same
  have quietCalls : ∀ call ∈ (program.execute environment []).calls, interface.Quiet given call :=
    fun call member => quiet.of_mem_calls member
  refine ⟨resultEq, ?_⟩
  rw [Interface.foldl_serve_of_quiet quietCalls]

end Values

/-- The label uses the scope of this number, or opens an object in it. -/
inductive OnScope {Scope Object : Type} (number : Nat) : Label Scope Object → Prop where
  | use : OnScope number (.useScope number)
  | opens (slot : Nat) (object : Object) : OnScope number (.openObject number slot object)

/-- The label uses the object in this slot, or opens another one through it. -/
inductive OnValue {Scope Object : Type} (slot : Nat) : Label Scope Object → Prop where
  | use : OnValue slot (.use slot)
  | derives (target : Nat) (object : Object) : OnValue slot (.derive slot target object)

section Labels

variable {Keeper Value Scope Object : Type} {holding : Holding Keeper Value Scope Object}
  {world : Values Keeper Value Scope Object} {number slot : Nat} {label : Label Scope Object}

theorem OnScope.sound_iff {keeper : Keeper} (onScope : OnScope number label)
    (found : world.keepers number = some keeper) :
    Sound (world.view holding) label ↔
      world.tables.scopes (holding.scope keeper) = some number := by
  have stands := @Values.forall_scope _ _ _ _ holding _ _ _ found
    fun scope => world.tables.scopes scope = some number
  cases onScope with
  | use => exact stands
  | opens slot object => exact stands

theorem OnScope.disciplined (onScope : OnScope number label) :
    Disciplined (world.view holding) label := by
  cases onScope <;> trivial

theorem OnScope.dropsEmpty (onScope : OnScope number label) :
    DropsEmpty (world.view holding) label := by
  cases onScope <;> trivial

theorem OnValue.sound_iff {owned : Owned Value} (onValue : OnValue slot label)
    (found : world.owned slot = some owned) :
    Sound (world.view holding) label ↔ Names world.tables (holding.child owned) := by
  have names := @Values.forall_child _ _ _ _ holding _ _ _ found (Names world.tables)
  cases onValue with
  | use => exact names
  | derives target object => exact names

theorem OnValue.disciplined_iff {owned : Owned Value} (onValue : OnValue slot label)
    (found : world.owned slot = some owned) :
    Disciplined (world.view holding) label ↔ (world.keepers owned.number).isSome := by
  have isOpen := (Values.forall_child found (world.view holding).IsOpen).trans Values.isOpen_iff
  cases onValue with
  | use => exact isOpen
  | derives target object => exact isOpen

theorem OnValue.dropsEmpty (onValue : OnValue slot label) :
    DropsEmpty (world.view holding) label := by
  cases onValue <;> trivial

end Labels

/-- The handles that a value names by itself or together with its scope. -/
def NamesValue {Keeper Value Scope Object : Type}
    (holding : Holding Keeper Value Scope Object) (value : Value)
    (given : List (Argument Scope Object)) : Prop :=
  given = [.object (holding.object value)] ∨
    given = [.scope (holding.owner value), .object (holding.object value)]

theorem NamesValue.stand_iff {Keeper Value Scope Object : Type}
    {holding : Holding Keeper Value Scope Object} {value : Value}
    {given : List (Argument Scope Object)} (names : NamesValue holding value given)
    (tables : Tables Scope Object) (number : Nat) :
    (∀ argument ∈ given, Stands tables (holding.owner value) number argument) ↔
      Names tables (holding.child ⟨value, number⟩) := by
  constructor
  · intro stand
    have object := stand (.object (holding.object value)) (by rcases names with rfl | rfl <;> simp)
    exact ⟨object.1, object.2⟩
  · intro both argument member
    rcases names with rfl | rfl
    · obtain rfl := List.mem_singleton.mp member
      exact ⟨both.object, both.scope⟩
    · rcases List.mem_pair.mp member with rfl | rfl
      · exact both.scope
      · exact ⟨both.object, both.scope⟩

/-- A value that is given together with some scope. -/
theorem stand_pair_iff {Keeper Value Scope Object : Type}
    (holding : Holding Keeper Value Scope Object) (tables : Tables Scope Object)
    (scope : Scope) (value : Value) (number : Nat) :
    (∀ argument ∈ [Argument.scope scope, .object (holding.object value)],
        Stands tables (holding.owner value) number argument) ↔
      Names tables (holding.child ⟨value, number⟩) ∧ tables.scopes scope = some number := by
  constructor
  · intro stand
    obtain ⟨object, owner⟩ := stand (.object (holding.object value)) (by simp)
    exact ⟨⟨object, owner⟩, stand (.scope scope) (by simp)⟩
  · rintro ⟨names, stands⟩ argument member
    rcases List.mem_pair.mp member with rfl | rfl
    · exact stands
    · exact ⟨names.object, names.scope⟩

theorem forall_eq_some {Value : Type} {option : Option Value} {found : Value}
    (isFound : option = some found) (condition : Value → Prop) :
    (∀ value, option = some value → condition value) ↔ condition found := by
  rw [isFound]
  exact ⟨fun all => all found rfl, fun holds value same => Option.some.inj same ▸ holds⟩

/-- A value that was looked up and what was got from it. -/
theorem forall_eq_some_two {Value Second : Type} {option : Option Value} {found : Value}
    {get : Value → Option Second} {got : Second} (isFound : option = some found)
    (isGot : get found = some got) (condition : Value → Second → Prop) :
    (∀ value second, option = some value → get value = some second →
      condition value second) ↔ condition found got := by
  constructor
  · exact fun all => all found got isFound isGot
  · intro holds value second same sameGot
    obtain rfl := Option.some.inj (isFound.symm.trans same)
    obtain rfl := Option.some.inj (isGot.symm.trans sameGot)
    exact holds

theorem forall_eq_some_three {Keeper Value Second : Type} {keeper : Option Keeper}
    {option : Option Value} {here : Keeper} {found : Value}
    {get : Keeper → Value → Option Second} {got : Second} (isHere : keeper = some here)
    (isFound : option = some found) (isGot : get here found = some got)
    (condition : Value → Second → Prop) :
    (∀ first value second, keeper = some first → option = some value →
      get first value = some second → condition value second) ↔ condition found got := by
  refine Iff.trans ?_ (forall_eq_some_two isFound isGot condition)
  constructor
  · exact fun all value second => all here value second isHere
  · intro all first value second sameKeeper
    obtain rfl := Option.some.inj (isHere.symm.trans sameKeeper)
    exact all value second

end ScopedHandles
