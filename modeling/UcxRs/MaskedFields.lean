import Mathlib.Data.List.Induction

/-!
# Blocks of masked fields and their builders

A C parameter block begins with a mask, and its reader looks at a field only
when the field's bit is in the mask.  A builder fills such a block by setter
calls: each setter writes some fields and adds their bits.  What the reader then
sees of a field is the value of the last setter that set it.

A builder may be asked to build again.  Values that it owns move out with the
first block, while the mask stays; the second half of this file says what the
next block advertises and owns.
-/

namespace MaskedFields

/-- The masked fields of a block. -/
structure Layout (Block Field : Type) (Value : Field → Type) (width : Nat) where
  mask : Block → BitVec width
  bit : Field → BitVec width
  value : Block → (field : Field) → Value field

namespace Layout

variable {Block Field : Type} {Value : Field → Type} {width : Nat}

/-- The bit of a field is in the mask. -/
def Shows (layout : Layout Block Field Value width) (block : Block) (field : Field) :
    Prop :=
  layout.mask block &&& layout.bit field ≠ 0

instance (layout : Layout Block Field Value width) (block : Block) (field : Field) :
    Decidable (layout.Shows block field) :=
  inferInstanceAs (Decidable (layout.mask block &&& layout.bit field ≠ 0))

/-- What the reader sees of a field. -/
def view (layout : Layout Block Field Value width) (block : Block) (field : Field) :
    Option (Value field) :=
  if layout.Shows block field then some (layout.value block field) else none

/-- No bit is shared. -/
def Separate (layout : Layout Block Field Value width) : Prop :=
  ∀ first second, layout.bit first &&& layout.bit second ≠ 0 ↔ second = first

/-- The mask with the bits of some fields. -/
def addBits (layout : Layout Block Field Value width) (mask : BitVec width)
    (fields : List Field) : BitVec width :=
  fields.foldl (fun mask field => mask ||| layout.bit field) mask

end Layout

theorem or_and_ne_zero_iff {width : Nat} (mask bits bit : BitVec width) :
    (mask ||| bits) &&& bit ≠ 0 ↔ mask &&& bit ≠ 0 ∨ bits &&& bit ≠ 0 := by
  rw [BitVec.and_or_distrib_right]
  exact (not_congr BitVec.or_eq_zero_iff).trans not_and_or

theorem Layout.exists_added {Block Field : Type} {Value : Field → Type} {width : Nat}
    (layout : Layout Block Field Value width) (separate : layout.Separate)
    (mask : BitVec width) (fields : List Field) :
    ∃ bits, layout.addBits mask fields = mask ||| bits ∧
      ∀ field, bits &&& layout.bit field ≠ 0 ↔ field ∈ fields := by
  induction fields generalizing mask with
  | nil =>
      refine ⟨0, BitVec.or_zero.symm, fun field => ?_⟩
      exact iff_of_false (fun nonzero => nonzero BitVec.zero_and) List.not_mem_nil
  | cons first fields ih =>
      obtain ⟨bits, added, bitsIff⟩ := ih (mask ||| layout.bit first)
      refine ⟨layout.bit first ||| bits, added.trans (BitVec.or_assoc ..), fun field => ?_⟩
      rw [or_and_ne_zero_iff, bitsIff, separate, List.mem_cons]

section LastSet

variable {Setter Value : Type}

/-- The value of the last setter that sets a field. -/
def lastSet (sets : Setter → Option Value) (setters : List Setter) : Option Value :=
  setters.reverse.findSome? sets

@[simp]
theorem lastSet_append_singleton (sets : Setter → Option Value) (setters : List Setter)
    (setter : Setter) :
    lastSet sets (setters ++ [setter]) = (sets setter).or (lastSet sets setters) := by
  unfold lastSet
  rw [List.reverse_append, List.findSome?_append]
  simp

theorem lastSet_eq_some {sets : Setter → Option Value} {setters : List Setter}
    {value : Value} (last : lastSet sets setters = some value) :
    ∃ setter, sets setter = some value := by
  obtain ⟨setter, _, set⟩ := List.exists_of_findSome?_eq_some last
  exact ⟨setter, set⟩

/-- A part of the builder that every setter either replaces or keeps. -/
theorem foldl_eq_lastSet {Builder : Type} {apply : Builder → Setter → Builder}
    {part : Builder → Value} {sets : Setter → Option Value}
    (law : ∀ builder setter,
      part (apply builder setter) = (sets setter).getD (part builder))
    (builder : Builder) (setters : List Setter) :
    part (setters.foldl apply builder) = (lastSet sets setters).getD (part builder) := by
  induction setters using List.reverseRecOn with
  | nil => rfl
  | append_singleton setters setter ih =>
      rw [List.foldl_append, List.foldl_cons, List.foldl_nil, law, ih,
        lastSet_append_singleton]
      cases sets setter <;> rfl

end LastSet

section Builders

variable {Block Builder Setter Field : Type} {Value : Field → Type} {width : Nat}

/-- Every setter writes the fields that it sets and adds their bits, and no
other. -/
structure Advertises (layout : Layout Block Field Value width) (build : Builder → Block)
    (apply : Builder → Setter → Builder)
    (sets : Setter → (field : Field) → Option (Value field)) : Prop where
  mask : ∀ builder setter, ∃ bits,
    layout.mask (build (apply builder setter)) = layout.mask (build builder) ||| bits ∧
      ∀ field, bits &&& layout.bit field ≠ 0 ↔ (sets setter field).isSome
  value : ∀ builder setter field,
    layout.value (build (apply builder setter)) field =
      (sets setter field).getD (layout.value (build builder) field)

variable {layout : Layout Block Field Value width} {build : Builder → Block}
  {apply : Builder → Setter → Builder}
  {sets : Setter → (field : Field) → Option (Value field)}

/-- Every setter adds the bits of the fields that it targets. -/
theorem Advertises.of_targets (separate : layout.Separate) (targets : Setter → List Field)
    (mask : ∀ builder setter, layout.mask (build (apply builder setter)) =
      layout.addBits (layout.mask (build builder)) (targets setter))
    (targeted : ∀ setter field, (sets setter field).isSome ↔ field ∈ targets setter)
    (value : ∀ builder setter field,
      layout.value (build (apply builder setter)) field =
        (sets setter field).getD (layout.value (build builder) field)) :
    Advertises layout build apply sets := by
  refine ⟨fun builder setter => ?_, value⟩
  obtain ⟨bits, added, bitsIff⟩ :=
    layout.exists_added separate (layout.mask (build builder)) (targets setter)
  refine ⟨bits, (mask builder setter).trans added, fun field => ?_⟩
  exact (bitsIff field).trans (targeted setter field).symm

/-- After any setter calls and one build the reader sees exactly what the setters
set, each field with the value of the last setter that set it. -/
def ShowsLastSet (layout : Layout Block Field Value width) (build : Builder → Block)
    (apply : Builder → Setter → Builder)
    (sets : Setter → (field : Field) → Option (Value field)) (initial : Builder) : Prop :=
  ∀ setters field, layout.view (build (setters.foldl apply initial)) field =
    lastSet (fun setter => sets setter field) setters

theorem Advertises.shows_apply_iff (advertises : Advertises layout build apply sets)
    {builder : Builder} {setter : Setter} {field : Field} :
    layout.Shows (build (apply builder setter)) field ↔
      layout.Shows (build builder) field ∨ (sets setter field).isSome := by
  obtain ⟨bits, maskEq, bitsIff⟩ := advertises.mask builder setter
  rw [Layout.Shows, maskEq, or_and_ne_zero_iff, bitsIff field]
  rfl

/-- One setter changes what is seen of the fields that it sets. -/
theorem Advertises.view_apply (advertises : Advertises layout build apply sets)
    (builder : Builder) (setter : Setter) (field : Field) :
    layout.view (build (apply builder setter)) field =
      (sets setter field).or (layout.view (build builder) field) := by
  have shows : layout.Shows (build (apply builder setter)) field ↔
      layout.Shows (build builder) field ∨ (sets setter field).isSome :=
    advertises.shows_apply_iff
  unfold Layout.view
  rw [advertises.value]
  cases set : sets setter field with
  | none =>
      rw [set] at shows
      simp [shows]
  | some value =>
      rw [set] at shows
      simp [shows]

theorem Advertises.showsLastSet (advertises : Advertises layout build apply sets)
    {initial : Builder} (empty : layout.mask (build initial) = 0) :
    ShowsLastSet layout build apply sets initial := by
  intro setters field
  induction setters using List.reverseRecOn with
  | nil =>
      refine if_neg fun shows => shows ?_
      rw [List.foldl_nil, empty]
      exact BitVec.zero_and
  | append_singleton setters setter ih =>
      rw [List.foldl_append, List.foldl_cons, List.foldl_nil, advertises.view_apply, ih,
        lastSet_append_singleton]

end Builders

section Rebuilding

variable {Builder Setter Owned : Type}

/-- What is done with one builder. -/
inductive Op (Setter : Type) where
  | set (setter : Setter)
  | build

/-- The builder after some operations; a build leaves `left` behind. -/
def afterOps (apply : Builder → Setter → Builder) (left : Builder → Builder)
    (builder : Builder) (ops : List (Op Setter)) : Builder :=
  ops.foldl (fun builder op =>
    match op with
    | .set setter => apply builder setter
    | .build => left builder) builder

def given (gives : Setter → Option Owned) : Op Setter → Option Owned
  | .set setter => gives setter
  | .build => none

/-- The last value that the builder was ever given. -/
def lastGiven (gives : Setter → Option Owned) (ops : List (Op Setter)) : Option Owned :=
  lastSet (given gives) ops

/-- The last value that the builder was given since it last built. -/
def givenSinceBuild (gives : Setter → Option Owned) (ops : List (Op Setter)) :
    Option Owned :=
  ops.foldl (fun held op =>
    match op with
    | .set setter => (gives setter).or held
    | .build => none) none

/-- At every build, a value that was ever given was given again since the build
before. -/
def Renewed (gives : Setter → Option Owned) (ops : List (Op Setter)) : Prop :=
  ∀ before rest, ops = before ++ .build :: rest →
    (lastGiven gives before).isSome → (givenSinceBuild gives before).isSome

/-- A builder that advertises a kind of value from the first time it is given
one, and gives its value away when it builds. -/
structure GivesAway (apply : Builder → Setter → Builder) (left : Builder → Builder)
    (gives : Setter → Option Owned) (advertised : Builder → Prop)
    (held : Builder → Option Owned) : Prop where
  advertised_apply : ∀ builder setter,
    advertised (apply builder setter) ↔ advertised builder ∨ (gives setter).isSome
  held_apply : ∀ builder setter,
    held (apply builder setter) = (gives setter).or (held builder)
  advertised_left : ∀ builder, advertised (left builder) ↔ advertised builder
  held_left : ∀ builder, held (left builder) = none

variable {apply : Builder → Setter → Builder} {left : Builder → Builder}
  {gives : Setter → Option Owned} {advertised : Builder → Prop}
  {held : Builder → Option Owned} {initial : Builder}

theorem afterOps_append (ops : List (Op Setter)) (op : Op Setter) :
    afterOps apply left initial (ops ++ [op]) =
      match op with
      | .set setter => apply (afterOps apply left initial ops) setter
      | .build => left (afterOps apply left initial ops) := by
  unfold afterOps
  rw [List.foldl_append, List.foldl_cons, List.foldl_nil]

@[simp]
theorem lastGiven_append_build (ops : List (Op Setter)) :
    lastGiven gives (ops ++ [.build]) = lastGiven gives ops := by
  unfold lastGiven
  rw [lastSet_append_singleton]
  rfl

@[simp]
theorem lastGiven_append_set (ops : List (Op Setter)) (setter : Setter) :
    lastGiven gives (ops ++ [.set setter]) = (gives setter).or (lastGiven gives ops) :=
  lastSet_append_singleton ..

@[simp]
theorem givenSinceBuild_append_build (ops : List (Op Setter)) :
    givenSinceBuild gives (ops ++ [.build]) = none := by
  simp [givenSinceBuild]

@[simp]
theorem givenSinceBuild_append_set (ops : List (Op Setter)) (setter : Setter) :
    givenSinceBuild gives (ops ++ [.set setter]) =
      (gives setter).or (givenSinceBuild gives ops) := by
  simp [givenSinceBuild]

/-- What was given since the last build is what was given last. -/
theorem lastGiven_of_givenSinceBuild {ops : List (Op Setter)} {value : Owned}
    (since : givenSinceBuild gives ops = some value) : lastGiven gives ops = some value := by
  induction ops using List.reverseRecOn with
  | nil => cases since
  | append_singleton ops op ih =>
      cases op with
      | build =>
          rw [givenSinceBuild_append_build] at since
          cases since
      | set setter =>
          rw [givenSinceBuild_append_set] at since
          rw [lastGiven_append_set]
          cases found : gives setter with
          | none =>
              rw [found, Option.none_or] at since
              rw [Option.none_or]
              exact ih since
          | some value =>
              rw [found, Option.some_or] at since
              rw [Option.some_or]
              exact since

theorem GivesAway.advertised_iff (givesAway : GivesAway apply left gives advertised held)
    (fresh : ¬ advertised initial) (ops : List (Op Setter)) :
    advertised (afterOps apply left initial ops) ↔ (lastGiven gives ops).isSome := by
  induction ops using List.reverseRecOn with
  | nil => exact iff_of_false fresh Bool.false_ne_true
  | append_singleton ops op ih =>
      rw [afterOps_append]
      cases op with
      | build => rw [givesAway.advertised_left, ih, lastGiven_append_build]
      | set setter =>
          rw [givesAway.advertised_apply, ih, lastGiven_append_set, Option.isSome_or,
            Bool.or_eq_true, or_comm]

theorem GivesAway.held_eq (givesAway : GivesAway apply left gives advertised held)
    (fresh : held initial = none) (ops : List (Op Setter)) :
    held (afterOps apply left initial ops) = givenSinceBuild gives ops := by
  induction ops using List.reverseRecOn with
  | nil => exact fresh
  | append_singleton ops op ih =>
      rw [afterOps_append]
      cases op with
      | build => rw [givesAway.held_left, givenSinceBuild_append_build]
      | set setter => rw [givesAway.held_apply, ih, givenSinceBuild_append_set]

/-- If every value is renewed, two builds in a row hand out nothing. -/
theorem Renewed.none_given {ops before rest : List (Op Setter)} (renewed : Renewed gives ops)
    (opsEq : ops = before ++ .build :: .build :: rest) :
    lastGiven gives before = none ∧ givenSinceBuild gives before = none := by
  have never : lastGiven gives before = none := by
    have again := renewed (before ++ [.build]) rest (by simp [opsEq])
    rw [lastGiven_append_build, givenSinceBuild_append_build] at again
    cases last : lastGiven gives before with
    | none => rfl
    | some value =>
        rw [last] at again
        exact absurd (again rfl) Bool.false_ne_true
  refine ⟨never, ?_⟩
  cases since : givenSinceBuild gives before with
  | none => rfl
  | some value => rw [lastGiven_of_givenSinceBuild since] at never; cases never

end Rebuilding

end MaskedFields
