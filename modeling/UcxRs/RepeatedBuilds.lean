import UcxRs.NamedBuilders

/-!
# Building again

The builders of contexts, workers and endpoints can build more than once.  A
build moves the name and the connection request out of the builder, but the mask
and the raw pointers stay.  The blocks of a sequence of setter calls and builds
are safe exactly if every name and every connection request is set again before
the next build; otherwise a block advertises a name behind a null pointer, or a
connection request that its parameters do not own.
-/

namespace UcxRs

namespace RepeatedBuilds

open MaskedFields

/-- If the name is shown, its pointer is not null and points to the last name
that was set, which the parameters own. -/
def NameOwned (shown : Prop) (pointer : Word) (held last : Option CString) : Prop :=
  shown → ∃ name, held = some name ∧ last = some name ∧ pointer = name.address ∧ pointer ≠ 0

/-- If a connection request is shown, the parameters own it. -/
def RequestOwned (shown : Prop) (pointer : ConnRequestPointer) (held : Option ConnRequest) :
    Prop :=
  shown → ∃ request, held = some request ∧ request.handle = pointer

theorem nameOwned_iff {shown : Prop} {pointer : Word} {held last : Option CString}
    (pointed : ∀ name, held = some name →
      last = some name ∧ pointer = name.address ∧ name.address ≠ 0) :
    NameOwned shown pointer held last ↔ (shown → held.isSome) := by
  constructor
  · intro owned isShown
    obtain ⟨name, holds, _⟩ := owned isShown
    exact Option.isSome_of_eq_some holds
  · intro holds isShown
    obtain ⟨name, heldEq⟩ := Option.isSome_iff_exists.mp (holds isShown)
    obtain ⟨lastEq, pointerEq, nonNull⟩ := pointed name heldEq
    exact ⟨name, heldEq, lastEq, pointerEq, pointerEq ▸ nonNull⟩

theorem requestOwned_iff {shown : Prop} {pointer : ConnRequestPointer}
    {held : Option ConnRequest}
    (pointed : ∀ request, held = some request → request.handle = pointer) :
    RequestOwned shown pointer held ↔ (shown → held.isSome) := by
  constructor
  · intro owned isShown
    obtain ⟨request, holds, _⟩ := owned isShown
    exact Option.isSome_of_eq_some holds
  · intro holds isShown
    obtain ⟨request, heldEq⟩ := Option.isSome_iff_exists.mp (holds isShown)
    exact ⟨request, heldEq, pointed request heldEq⟩

/-- A string lies where its allocation does. -/
theorem address_ne_zero {allocation : NonNull} {name : List (BitVec 8)} {nameCs : CString}
    (made : CString.new allocation.val name = some nameCs) : nameCs.address ≠ 0 := by
  obtain ⟨_, ⟨⟩⟩ := Option.ite_none_left_eq_some.mp made
  exact allocation.2

section Named

variable {Builder Setter Params Field : Type} {Value : Field → Type}

/-- A builder of parameters with a name, and how to look at it. -/
structure NamedBuilder (Builder Setter Params Field : Type) (Value : Field → Type) where
  new : Builder
  apply : Builder → Setter → Builder
  build : Builder → Params × Builder
  layout : Layout Params Field Value 64
  nameField : Field
  namePointer : Params → Word
  ownedName : Params → Option CString
  heldName : Builder → Option CString
  givesName : Setter → Option CString

namespace NamedBuilder

variable (named : NamedBuilder Builder Setter Params Field Value)

/-- The builder after some setter calls and builds. -/
def after (ops : List (Op Setter)) : Builder :=
  afterOps named.apply (fun builder => (named.build builder).2) named.new ops

/-- Every block of the sequence owns the name that it advertises. -/
def NamesOwned (ops : List (Op Setter)) : Prop :=
  ∀ before rest, ops = before ++ .build :: rest →
    let params := (named.build (named.after before)).1
    NameOwned (named.layout.Shows params named.nameField) (named.namePointer params)
      (named.ownedName params) (lastGiven named.givesName before)

/-- The second of two builds in a row shows what the first one shows, except the
fields that the first one gave away. -/
def RepeatsShown (gaveAway : Params → Field → Prop)
    [∀ params field, Decidable (gaveAway params field)] (ops : List (Op Setter)) : Prop :=
  ∀ before rest, ops = before ++ .build :: .build :: rest →
    let first := named.build (named.after before)
    let second := named.build first.2
    ∀ field, named.layout.view second.1 field =
      if gaveAway first.1 field then none else named.layout.view first.1 field

/-- The name of the builder is advertised and given away. -/
structure Lawful : Prop where
  givesAway : GivesAway named.apply (fun builder => (named.build builder).2) named.givesName
    (fun builder => named.layout.Shows (named.build builder).1 named.nameField)
    named.heldName
  freshMask : named.layout.mask (named.build named.new).1 = 0
  freshName : named.heldName named.new = none
  ownedName_build : ∀ builder,
    named.ownedName (named.build builder).1 = named.heldName builder
  namePointer_build : ∀ builder name, named.heldName builder = some name →
    named.namePointer (named.build builder).1 = name.address
  nonNull : ∀ setter name, named.givesName setter = some name → name.address ≠ 0

variable {named}

/-- A setter call has nothing to do with the name, or it is given the bytes of one. -/
inductive Naming (named : NamedBuilder Builder Setter Params Field Value)
    (sets : (field : Field) → Option (Value field)) (setter : Setter) : Prop where
  | other (gives : named.givesName setter = none)
      (keeps : ∀ builder, named.heldName (named.apply builder setter) = named.heldName builder)
      (setsNoName : sets named.nameField = none)
  | name (allocation : NonNull) (bytes : List (BitVec 8)) (withName : Builder → CString → Builder)
      (gives : named.givesName setter = CString.new allocation.val bytes)
      (applies : ∀ builder, named.apply builder setter =
        ((CString.new allocation.val bytes).map (withName builder)).getD builder)
      (holds : ∀ builder nameCs, named.heldName (withName builder nameCs) = some nameCs)
      (setsName : (sets named.nameField).isSome = (CString.new allocation.val bytes).isSome)

section Naming

variable {sets : (field : Field) → Option (Value field)} {setter : Setter}

theorem Naming.sets_iff (naming : Naming named sets setter) :
    (sets named.nameField).isSome ↔ (named.givesName setter).isSome := by
  cases naming with
  | other gives keeps setsNoName => rw [gives, setsNoName]; rfl
  | name allocation bytes withName gives applies holds setsName => rw [gives, setsName]

theorem Naming.heldName_apply (naming : Naming named sets setter) (builder : Builder) :
    named.heldName (named.apply builder setter) =
      (named.givesName setter).or (named.heldName builder) := by
  cases naming with
  | other gives keeps setsNoName =>
      rw [gives, keeps]
      rfl
  | name allocation bytes withName gives applies holds setsName =>
      rw [gives, applies]
      cases CString.new allocation.val bytes with
      | none => rfl
      | some nameCs => exact holds builder nameCs

theorem Naming.nonNull (naming : Naming named sets setter) {name : CString}
    (gave : named.givesName setter = some name) : name.address ≠ 0 := by
  cases naming with
  | other gives keeps setsNoName => cases gives.symm.trans gave
  | name allocation bytes withName gives applies holds setsName =>
      exact address_ne_zero (gives.symm.trans gave)

end Naming

/-- A builder advertises and gives away its name if its setters do what they say of the
fields, and its builds keep the mask and move the name out. -/
theorem Lawful.of_advertises {sets : Setter → (field : Field) → Option (Value field)}
    (advertises : Advertises named.layout (fun builder => (named.build builder).1) named.apply sets)
    (naming : ∀ setter, Naming named (sets setter) setter)
    (mask_rebuild : ∀ builder, named.layout.mask (named.build (named.build builder).2).1 =
      named.layout.mask (named.build builder).1)
    (heldName_build : ∀ builder, named.heldName (named.build builder).2 = none)
    (freshMask : named.layout.mask (named.build named.new).1 = 0)
    (freshName : named.heldName named.new = none)
    (ownedName_build : ∀ builder,
      named.ownedName (named.build builder).1 = named.heldName builder)
    (namePointer_build : ∀ builder, ∃ unnamed, named.namePointer (named.build builder).1 =
      ((named.heldName builder).map CString.address).getD unnamed) :
    named.Lawful where
  givesAway := {
    advertised_apply := fun builder setter =>
      advertises.shows_apply_iff.trans (or_congr Iff.rfl (naming setter).sets_iff)
    held_apply := fun builder setter => (naming setter).heldName_apply builder
    advertised_left := fun builder => by rw [Layout.Shows, mask_rebuild, Layout.Shows]
    held_left := heldName_build }
  freshMask := freshMask
  freshName := freshName
  ownedName_build := ownedName_build
  namePointer_build := fun builder name holds => by
    obtain ⟨unnamed, pointerEq⟩ := namePointer_build builder
    rw [pointerEq, holds]
    rfl
  nonNull := fun setter name gave => (naming setter).nonNull gave

theorem Lawful.heldName_after (lawful : named.Lawful) (ops : List (Op Setter)) :
    named.heldName (named.after ops) = givenSinceBuild named.givesName ops :=
  lawful.givesAway.held_eq lawful.freshName ops

theorem Lawful.shows_after_iff (lawful : named.Lawful) (ops : List (Op Setter)) :
    named.layout.Shows (named.build (named.after ops)).1 named.nameField ↔
      (lastGiven named.givesName ops).isSome := by
  refine lawful.givesAway.advertised_iff (fun shows => shows ?_) ops
  rw [lawful.freshMask]
  exact BitVec.zero_and

theorem Lawful.namesOwned_iff (lawful : named.Lawful) (ops : List (Op Setter)) :
    named.NamesOwned ops ↔ Renewed named.givesName ops := by
  refine forall_congr' fun before => forall_congr' fun rest => imp_congr Iff.rfl ?_
  have held := lawful.heldName_after before
  have owned := lawful.ownedName_build (named.after before)
  refine (nameOwned_iff fun name owns => ?_).trans ?_
  · have holds := owned.symm.trans owns
    have last := lastGiven_of_givenSinceBuild (held.symm.trans holds)
    refine ⟨last, lawful.namePointer_build _ name holds, ?_⟩
    obtain ⟨op, gave⟩ := lastSet_eq_some last
    cases op with
    | build => cases gave
    | set setter => exact lawful.nonNull setter name gave
  · rw [owned, held]
    exact imp_congr (lawful.shows_after_iff before) Iff.rfl

/-- If every name is renewed, two builds in a row find no name. -/
theorem Lawful.heldName_of_repeated (lawful : named.Lawful) {ops before rest : List (Op Setter)}
    (renewed : Renewed named.givesName ops)
    (opsEq : ops = before ++ .build :: .build :: rest) :
    named.heldName (named.after before) = none :=
  (lawful.heldName_after before).trans (renewed.none_given opsEq).2

/-- Building again without anything to give away builds the same block. -/
theorem repeatsShown_of_same {gaveAway : Params → Field → Prop}
    [∀ params field, Decidable (gaveAway params field)] {ops : List (Op Setter)}
    (same : ∀ before rest, ops = before ++ .build :: .build :: rest →
      let first := named.build (named.after before)
      (named.build first.2).1 = first.1 ∧ ∀ field, ¬ gaveAway first.1 field) :
    named.RepeatsShown gaveAway ops := by
  intro before rest opsEq first second field
  obtain ⟨sameBlock, nothing⟩ := same before rest opsEq
  rw [if_neg (nothing field)]
  exact congrArg (fun params => named.layout.view params field) sameBlock

/-- The names of the blocks are safe, exactly if every name is renewed, where a build that
finds no name is repeated by the next one. -/
theorem Lawful.safe_iff (lawful : named.Lawful) {gaveAway : Params → Field → Prop}
    [∀ params field, Decidable (gaveAway params field)]
    (gaveName : ∀ params field, gaveAway params field → (named.ownedName params).isSome)
    (rebuild : ∀ builder, named.heldName builder = none →
      (named.build (named.build builder).2).1 = (named.build builder).1)
    (ops : List (Op Setter)) :
    named.NamesOwned ops ∧ named.RepeatsShown gaveAway ops ↔ Renewed named.givesName ops := by
  refine ⟨fun safe => (lawful.namesOwned_iff ops).mp safe.1, fun renewed => ?_⟩
  refine ⟨(lawful.namesOwned_iff ops).mpr renewed,
    repeatsShown_of_same fun before rest opsEq => ?_⟩
  have unnamed := lawful.heldName_of_repeated renewed opsEq
  refine ⟨rebuild _ unnamed, fun field given => ?_⟩
  have owned := gaveName _ _ given
  rw [lawful.ownedName_build, unnamed] at owned
  cases owned

end NamedBuilder

end Named

end RepeatedBuilds

namespace Context.ParamsBuilder

open MaskedFields RepeatedBuilds

/-- The name that a setter call gives the builder. -/
def givesName : Setter → Option CString
  | .name allocation name => CString.new allocation.val name
  | _ => none

def named : NamedBuilder ParamsBuilder Setter Params Field Field.Value where
  new := new
  apply := apply
  build := build
  layout := layout
  nameField := .name
  namePointer params := params.handle.name
  ownedName := Params.name
  heldName := heldName
  givesName := givesName

theorem build_snd (builder : ParamsBuilder) :
    builder.build.2 =
      { builder with
        uninitHandle := { builder.uninitHandle with fieldMask := builder.fieldMask }
        heldName := none } := by
  unfold build
  cases builder.heldName <;> rfl

theorem named_lawful : named.Lawful := by
  refine NamedBuilder.Lawful.of_advertises advertises (fun setter => ?_) (fun builder => ?_)
    (fun builder => ?_) rfl rfl (fun builder => ?_)
    fun builder => ⟨builder.uninitHandle.name, ?_⟩
  · cases setter with
    | name allocation bytes =>
        exact .name allocation bytes withName rfl (apply_name allocation bytes)
          (fun _ _ => rfl) Option.isSome_map
    | _ => exact .other rfl (fun _ => rfl) rfl
  · simp only [named, build_fst, build_snd]
    rfl
  · simp only [named, build_snd]
  · simp only [named, build_fst]
  · simp only [named, build_fst]

/-- The fields that a build gave away. -/
def GaveAway (params : Params) (field : Field) : Prop :=
  field = .name ∧ params.name.isSome

instance (params : Params) (field : Field) : Decidable (GaveAway params field) :=
  inferInstanceAs (Decidable (_ ∧ _))

/-- The builds of a sequence are safe. -/
def BuildsSafely (ops : List (Op Setter)) : Prop :=
  named.NamesOwned ops ∧ named.RepeatsShown GaveAway ops

theorem buildsSafely_iff (ops : List (Op Setter)) :
    BuildsSafely ops ↔ Renewed givesName ops := by
  refine named_lawful.safe_iff (fun _ _ given => given.2) (fun builder unnamed => ?_) ops
  have none : builder.heldName = none := unnamed
  simp only [named, build_fst, build_snd, none]

end Context.ParamsBuilder

namespace Worker.ParamsBuilder

open MaskedFields RepeatedBuilds

/-- The name that a setter call gives the builder. -/
def givesName : Setter → Option CString
  | .name allocation name => CString.new allocation.val name
  | _ => none

def named : NamedBuilder ParamsBuilder Setter Params Field Field.Value where
  new := new
  apply := apply
  build := build
  layout := layout
  nameField := .name
  namePointer params := params.handle.name
  ownedName := Params.name
  heldName := heldName
  givesName := givesName

theorem build_snd (builder : ParamsBuilder) :
    builder.build.2 =
      { builder with
        uninitHandle := { builder.uninitHandle with fieldMask := builder.fieldMask }
        heldName := none } := by
  unfold build
  cases builder.heldName <;> rfl

theorem named_lawful : named.Lawful := by
  refine NamedBuilder.Lawful.of_advertises advertises (fun setter => ?_) (fun builder => ?_)
    (fun builder => ?_) rfl rfl (fun builder => ?_)
    fun builder => ⟨builder.uninitHandle.name, ?_⟩
  · cases setter with
    | name allocation bytes =>
        exact .name allocation bytes withName rfl (apply_name allocation bytes)
          (fun _ _ => rfl) Option.isSome_map
    | _ => exact .other rfl (fun _ => rfl) rfl
  · simp only [named, build_fst, build_snd]
    rfl
  · simp only [named, build_snd]
  · simp only [named, build_fst]
  · simp only [named, build_fst]

/-- The fields that a build gave away. -/
def GaveAway (params : Params) (field : Field) : Prop :=
  field = .name ∧ params.name.isSome

instance (params : Params) (field : Field) : Decidable (GaveAway params field) :=
  inferInstanceAs (Decidable (_ ∧ _))

/-- The builds of a sequence are safe. -/
def BuildsSafely (ops : List (Op Setter)) : Prop :=
  named.NamesOwned ops ∧ named.RepeatsShown GaveAway ops

theorem buildsSafely_iff (ops : List (Op Setter)) :
    BuildsSafely ops ↔ Renewed givesName ops := by
  refine named_lawful.safe_iff (fun _ _ given => given.2) (fun builder unnamed => ?_) ops
  have none : builder.heldName = none := unnamed
  simp only [named, build_fst, build_snd, none]

end Worker.ParamsBuilder

namespace Ep.ParamsBuilder

open MaskedFields RepeatedBuilds

/-- The name that a setter call gives the builder. -/
def givesName : Setter → Option CString
  | .name allocation name => CString.new allocation.val name
  | _ => none

/-- The connection request that a setter call gives the builder. -/
def givesConnRequest : Setter → Option ConnRequest
  | .connRequest request => some request
  | _ => none

def named : NamedBuilder ParamsBuilder Setter Params Field Field.Value where
  new := new
  apply := apply
  build := build
  layout := layout
  nameField := .name
  namePointer params := params.handle.name
  ownedName := Params.name
  heldName := heldName
  givesName := givesName

theorem build_snd (builder : ParamsBuilder) :
    builder.build.2 =
      { builder with
        uninitHandle := { builder.uninitHandle with fieldMask := builder.fieldMask }
        heldName := none
        heldConnRequest := none } := by
  unfold build
  cases builder.heldName <;> rfl

theorem named_lawful : named.Lawful := by
  refine NamedBuilder.Lawful.of_advertises advertises (fun setter => ?_) (fun builder => ?_)
    (fun builder => ?_) rfl rfl (fun builder => ?_)
    fun builder => ⟨builder.uninitHandle.name, ?_⟩
  · cases setter with
    | name allocation bytes =>
        exact .name allocation bytes withName rfl (apply_name allocation bytes)
          (fun _ _ => rfl) Option.isSome_map
    | _ => exact .other rfl (fun _ => rfl) rfl
  · simp only [named, build_fst, build_snd]
    rfl
  · simp only [named, build_snd]
  · simp only [named, build_fst]
  · simp only [named, build_fst]

theorem givesAway_connRequest :
    GivesAway apply (fun builder => builder.build.2) givesConnRequest
      (fun builder => layout.Shows builder.build.1 .connRequest) heldConnRequest := by
  constructor
  · intro builder setter
    refine advertises.shows_apply_iff.trans (or_congr Iff.rfl ?_)
    cases setter <;> rfl
  · intro builder setter
    cases setter with
    | name allocation name =>
        rw [apply_name]
        cases CString.new allocation.val name <;> rfl
    | _ => rfl
  · intro builder
    simp only [build_snd, Layout.Shows, build_fst]
    rfl
  · intro builder
    simp only [build_snd]

/-- The raw pointer of the builder is that of the request that it holds. -/
theorem pointer_after {ops : List (Op Setter)} {request : ConnRequest}
    (holds : (named.after ops).heldConnRequest = some request) :
    (named.after ops).uninitHandle.connRequest = request.handle := by
  unfold NamedBuilder.after at holds ⊢
  induction ops using List.reverseRecOn with
  | nil => cases holds
  | append_singleton ops op ih =>
      rw [afterOps_append] at holds ⊢
      cases op with
      | build =>
          simp only [named, build_snd] at holds
          cases holds
      | set setter =>
          cases setter with
          | connRequest newer =>
              cases holds
              rfl
          | name allocation name =>
              simp only [named, apply_name] at ih holds ⊢
              cases made : CString.new allocation.val name <;> rw [made] at holds <;>
                exact ih holds
          | _ => exact ih holds

/-- Every block of the sequence owns the connection request that it
advertises. -/
def RequestsOwned (ops : List (Op Setter)) : Prop :=
  ∀ before rest, ops = before ++ .build :: rest →
    let params := (named.after before).build.1
    RequestOwned (layout.Shows params .connRequest) params.handle.connRequest
      params.connRequest

theorem requestsOwned_iff (ops : List (Op Setter)) :
    RequestsOwned ops ↔ Renewed givesConnRequest ops := by
  refine forall_congr' fun before => forall_congr' fun rest => imp_congr Iff.rfl ?_
  have held : (named.after before).heldConnRequest = givenSinceBuild givesConnRequest before :=
    givesAway_connRequest.held_eq rfl before
  have shown : layout.Shows (named.after before).build.1 .connRequest ↔
      (lastGiven givesConnRequest before).isSome :=
    givesAway_connRequest.advertised_iff (fun shows => shows BitVec.zero_and) before
  refine (requestOwned_iff fun request owns => ?_).trans ?_
  · rw [build_connRequest] at owns
    rw [build_handle_connRequest]
    exact (pointer_after owns).symm
  · rw [build_connRequest, held]
    exact imp_congr shown Iff.rfl

/-- The fields that a build gave away. -/
def GaveAway (params : Params) (field : Field) : Prop :=
  (field = .name ∧ params.name.isSome) ∨ (field = .connRequest ∧ params.connRequest.isSome)

instance (params : Params) (field : Field) : Decidable (GaveAway params field) :=
  inferInstanceAs (Decidable (_ ∨ _))

/-- Two builds in a row that find no name and no request build the same
block. -/
theorem rebuild_of_nothing_held {builder : ParamsBuilder} (unnamed : builder.heldName = none)
    (unrequested : builder.heldConnRequest = none) :
    builder.build.2.build.1 = builder.build.1 ∧
      ∀ field, ¬ GaveAway builder.build.1 field := by
  constructor
  · simp only [build_fst, build_snd, unnamed, unrequested]
  · rintro field (⟨_, given⟩ | ⟨_, given⟩)
    · rw [build_fst, unnamed] at given
      cases given
    · rw [build_connRequest, unrequested] at given
      cases given

/-- The builds of a sequence are safe. -/
def BuildsSafely (ops : List (Op Setter)) : Prop :=
  named.NamesOwned ops ∧ RequestsOwned ops ∧ named.RepeatsShown GaveAway ops

theorem buildsSafely_iff (ops : List (Op Setter)) :
    BuildsSafely ops ↔ Renewed givesName ops ∧ Renewed givesConnRequest ops := by
  constructor
  · rintro ⟨names, requests, _⟩
    exact ⟨(named_lawful.namesOwned_iff ops).mp names, (requestsOwned_iff ops).mp requests⟩
  · rintro ⟨names, requests⟩
    refine ⟨(named_lawful.namesOwned_iff ops).mpr names, (requestsOwned_iff ops).mpr requests,
      NamedBuilder.repeatsShown_of_same fun before rest opsEq => ?_⟩
    have unrequested : (named.after before).heldConnRequest = none :=
      (givesAway_connRequest.held_eq rfl before).trans (requests.none_given opsEq).2
    exact rebuild_of_nothing_held (named_lawful.heldName_of_repeated names opsEq) unrequested

end Ep.ParamsBuilder

namespace RepeatedBuilds

open MaskedFields

/-- For every sequence of setter calls, successful or not, and builds: every block
owns the name and the connection request that it advertises, and two builds in a
row show the same fields except those given away, exactly if at each build every
name and every connection request that was ever set has been set again since the
build before. -/
theorem builds_safely_iff (contextOps : List (Op Context.ParamsBuilder.Setter))
    (workerOps : List (Op Worker.ParamsBuilder.Setter))
    (epOps : List (Op Ep.ParamsBuilder.Setter)) :
    (Context.ParamsBuilder.BuildsSafely contextOps ↔
      Renewed Context.ParamsBuilder.givesName contextOps) ∧
    (Worker.ParamsBuilder.BuildsSafely workerOps ↔
      Renewed Worker.ParamsBuilder.givesName workerOps) ∧
    (Ep.ParamsBuilder.BuildsSafely epOps ↔
      Renewed Ep.ParamsBuilder.givesName epOps ∧
        Renewed Ep.ParamsBuilder.givesConnRequest epOps) :=
  ⟨Context.ParamsBuilder.buildsSafely_iff contextOps,
    Worker.ParamsBuilder.buildsSafely_iff workerOps,
    Ep.ParamsBuilder.buildsSafely_iff epOps⟩

/-- A context builder is given a name and builds twice. -/
def namedTwice : List (Op Context.ParamsBuilder.Setter) :=
  [.set (.name ⟨0x1000, by decide⟩ [0x61]), .build, .build]

/-- The second block advertises a name behind a null pointer. -/
theorem second_build_advertises_null_name :
    let builder := Context.ParamsBuilder.new.apply (.name ⟨0x1000, by decide⟩ [0x61])
    let first := builder.build
    let second := first.2.build.1
    Context.ParamsBuilder.layout.Shows second .name ∧ second.handle.name = 0 ∧
      second.name = none ∧ ¬ Context.ParamsBuilder.BuildsSafely namedTwice := by
  refine ⟨by decide, rfl, rfl, fun safe => ?_⟩
  have renewed := (Context.ParamsBuilder.buildsSafely_iff namedTwice).mp safe
  have renewedAtSecond := renewed [.set (.name ⟨0x1000, by decide⟩ [0x61]), .build] [] rfl rfl
  exact absurd renewedAtSecond Bool.false_ne_true

end RepeatedBuilds

end UcxRs
