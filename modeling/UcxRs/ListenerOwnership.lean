import UcxRs.ListenerPhases

/-!
# Listener ownership accounting

Every step of the listener world, each path through the callback included,
keeps the strong count of a state equal to the number of values that own a
reference to it, and keeps the state in one of its phases.  Over whole runs
this gives the life cycle of the UCX listener: destroyed once for a successful
creation, when the last value goes, before the closure, and never otherwise.
-/

namespace UcxRs

namespace ListenerOwnership

open UnwindingMutex (Completion)

section Steps

variable {held : List ListenerRef} {world : World} {state other : ListenerRef}

/-- A change that touches one allocated state only keeps the world balanced
when it leaves that state in some phase, with orderly events. -/
theorem Balanced.of_local {held' : List ListenerRef} {world' : World}
    {inner : ArcInner} (balanced : Balanced held world)
    (cell : world.heap state = some inner)
    (others : ∀ other, other ≠ state →
      world'.view held' other = world.view held other)
    (phase : Phase (world'.view held' state))
    (orderly : Orderly (world'.history state))
    (sameNext : world'.nextAllocation = world.nextAllocation) :
    Balanced held' world' := by
  refine ⟨fun other => ?_, fun other => ?_, fun other notAllocated => ?_⟩
  · by_cases same : other = state
    · rw [same]
      exact phase
    · rw [others other same]
      exact balanced.phase other
  · by_cases same : other = state
    · rw [same]
      exact orderly
    · have sameHistory : world'.history other = world.history other :=
        congrArg View.history (others other same)
      rw [sameHistory]
      exact balanced.orderly other
  · rw [sameNext] at notAllocated
    have absent := balanced.fresh other notAllocated
    by_cases same : other = state
    · rw [same] at absent
      exact absurd absent ((balanced.phase state).ucx_ne_absent cell)
    · have sameUcx : world'.ucx other = world.ucx other :=
        congrArg View.ucx (others other same)
      rw [sameUcx, absent]

theorem values_dropArc : (world.dropArc state).values = world.values := by
  unfold World.dropArc
  split
  · rfl
  · split
    · exact values_dropState _
    · rfl

theorem values_incrementStrongCount :
    (world.incrementStrongCount state).values = world.values := by
  unfold World.incrementStrongCount
  split <;> rfl

theorem nextAllocation_dropArc :
    (world.dropArc state).nextAllocation = world.nextAllocation := by
  unfold World.dropArc
  split
  · rfl
  · split
    · unfold World.dropState
      simp only
      split <;> rfl
    · rfl

theorem balanced_dropArc (balanced : Balanced (state :: held) world) :
    Balanced held (world.dropArc state) := by
  have phase := balanced.phase state
  have referred : 0 < (world.view (state :: held) state).held := by
    rw [view_cons_self]
    exact Nat.succ_pos _
  obtain ⟨inner, cell⟩ := phase.allocated (by omega)
  exact balanced.of_local cell (fun other ne => view_dropArc_of_ne ne)
    (phase_dropArc phase) (orderly_dropArc phase (balanced.orderly state))
    nextAllocation_dropArc

theorem balanced_incrementStrongCount {inner : ArcInner}
    (balanced : Balanced held world) (cell : world.heap state = some inner) :
    Balanced (state :: held) (world.incrementStrongCount state) := by
  have phase := balanced.phase state
  have retained := (phase.of_cell cell).1
  have counted := retained.counted
  have incremented : world.incrementStrongCount state =
      world.setCell state (some { inner with strong := inner.strong + 1 }) := by
    unfold World.incrementStrongCount
    simp only [cell]
  rw [incremented]
  refine balanced.of_local cell (fun other ne => ?_) ?_ (balanced.orderly state) rfl
  · rw [view_setCell_of_ne _ ne, view_cons_of_ne ne]
  · rw [view_setCell_self, view_cons_self]
    refine phase.recount cell rfl rfl ?_ ?_ rfl rfl rfl rfl
    · simp only
      omega
    · exact Nat.succ_pos _

/-- An owned value that is not a creation in progress. -/
def Value.IsComplete : Value → Prop
  | creating _ => False
  | _ => True

theorem live_own_self (value : Value) :
    (world.own value).liveValues value.state = world.liveValues value.state + 1 := by
  simp [World.own, World.liveValues]

theorem view_own_of_ne {value : Value} (ne : other ≠ value.state) :
    (world.own value).view held other = world.view held other := by
  have notCreating : (value == Value.creating other) = false := by
    refine beq_false_of_ne fun same => ne ?_
    rw [same]
    rfl
  simp [World.own, World.view, World.liveValues, World.history, ne.symm,
    List.count_cons, notCreating]

theorem count_creating_own {value : Value} (complete : value.IsComplete) :
    (world.own value).values.count (.creating state) =
      world.values.count (.creating state) := by
  cases value with
  | creating _ => exact complete.elim
  | listener _ => simp [World.own]
  | connRequest _ => simp [World.own]

/-- A held reference becomes an owned value. -/
theorem balanced_own {value : Value} (complete : value.IsComplete)
    (balanced : Balanced (value.state :: held) world) :
    Balanced held (world.own value) := by
  have phase := balanced.phase value.state
  have referred : 0 < (world.view (value.state :: held) value.state).held := by
    rw [view_cons_self]
    exact Nat.succ_pos _
  obtain ⟨inner, cell⟩ := phase.allocated (by omega)
  have retained := (phase.of_cell cell).1
  have counted := retained.counted
  rw [view_cons_self] at counted
  refine balanced.of_local cell (fun other ne => ?_) ?_ (balanced.orderly _) rfl
  · rw [view_own_of_ne ne, view_cons_of_ne ne]
  · refine phase.recount cell cell rfl ?_ retained.positive rfl
      (count_creating_own complete) rfl rfl
    change inner.strong = (world.own value).liveValues value.state + held.count value.state
    rw [live_own_self]
    change inner.strong = world.liveValues value.state + (held.count value.state + 1)
      at counted
    omega

theorem live_giveUp_self {value : Value} (member : value ∈ world.values) :
    (world.giveUp value).liveValues value.state + 1 = world.liveValues value.state := by
  have permuted := (List.perm_cons_erase member).countP_eq
    (fun found => decide (found.state = value.state))
  simp only [List.countP_cons, decide_true, if_true] at permuted
  exact permuted.symm

theorem view_giveUp_of_ne {value : Value} (member : value ∈ world.values)
    (ne : other ≠ value.state) :
    (world.giveUp value).view held other = world.view held other := by
  have permuted := (List.perm_cons_erase member).countP_eq
    (fun found => decide (found.state = other))
  have notOther : decide (value.state = other) = false := decide_eq_false ne.symm
  simp only [List.countP_cons, notOther, Bool.false_eq_true, if_false,
    Nat.add_zero] at permuted
  have notCreating : Value.creating other ≠ value := by
    rintro rfl
    exact ne rfl
  have sameCount := @List.count_erase_of_ne _ _ _ _ _ notCreating world.values
  simp only [World.view, World.giveUp, World.liveValues, World.history,
    sameCount, ← permuted]

/-- An owned value becomes a held reference. -/
theorem balanced_giveUp {value : Value} (complete : value.IsComplete)
    (member : value ∈ world.values) (balanced : Balanced held world) :
    Balanced (value.state :: held) (world.giveUp value) := by
  have phase := balanced.phase value.state
  have live := live_giveUp_self member
  obtain ⟨inner, cell⟩ := phase.allocated (by
    change 0 < world.liveValues value.state + held.count value.state
    omega)
  have retained := (phase.of_cell cell).1
  have counted : inner.strong = world.liveValues value.state + held.count value.state :=
    retained.counted
  refine balanced.of_local cell (fun other ne => ?_) ?_ (balanced.orderly _) rfl
  · rw [view_cons_of_ne ne, view_giveUp_of_ne member ne]
  · rw [view_cons_self]
    refine phase.recount cell cell rfl ?_ retained.positive rfl ?_ rfl rfl
    · change inner.strong =
        (world.giveUp value).liveValues value.state + (held.count value.state + 1)
      omega
    · have notCreating : Value.creating value.state ≠ value := by
        intro same
        rw [← same] at complete
        exact complete
      exact List.count_erase_of_ne notCreating

theorem balanced_dropValue {value : Value} (complete : value.IsComplete)
    (member : value ∈ world.values) (balanced : Balanced held world) :
    Balanced held (world.dropValue value) :=
  balanced_dropArc (balanced_giveUp complete member balanced)

/-- Recording an event that neither creates nor destroys a listener. -/
theorem balanced_record {event : Event} {inner : ArcInner}
    (balanced : Balanced held world) (cell : world.heap event.state = some inner)
    (allowed : EventAllowed (world.history event.state) event)
    (createsNothing : creations [event] = [])
    (destroysNothing : destructions [event] = []) :
    Balanced held (world.record event) := by
  have phase := balanced.phase event.state
  have retained := (phase.of_cell cell).1
  refine balanced.of_local cell (fun other ne => view_record_of_ne ne) ?_ ?_ rfl
  · have history : ((world.record event).view held event.state).history =
        [event] ++ world.history event.state := history_record event event.state rfl
    refine phase.recount cell cell rfl retained.counted retained.positive rfl rfl ?_ ?_
    · rw [history]
      unfold creations at createsNothing ⊢
      rw [List.filterMap_append, createsNothing]
      rfl
    · rw [history]
      unfold destructions at destroysNothing ⊢
      rw [List.flatMap_append, destroysNothing]
      rfl
  · rw [history_record event event.state rfl]
    exact ⟨allowed, balanced.orderly event.state⟩

theorem released_of_fresh (balanced : Balanced held world)
    (notAllocated : world.nextAllocation ≤ state.allocation) :
    Released (world.view held state) ∧ world.history state = [] := by
  have absent := balanced.fresh state notAllocated
  cases balanced.phase state with
  | absent released _ history => exact ⟨released, history⟩
  | creating _ _ ucx => cases ucx.symm.trans absent
  | listening _ _ _ ucx => cases ucx.symm.trans absent
  | failed _ _ ucx => cases ucx.symm.trans absent
  | failedReleased _ ucx => cases ucx.symm.trans absent
  | destroyed _ _ ucx => cases ucx.symm.trans absent

theorem balanced_beginCreate (balanced : Balanced held world)
    (callback : ConnCallback) : Balanced held (world.beginCreate callback) := by
  obtain ⟨released, history⟩ :=
    @released_of_fresh held world ⟨world.nextAllocation⟩ balanced (le_refl _)
  refine ⟨fun other => ?_, fun other => balanced.orderly other, fun other later => ?_⟩
  · by_cases same : other = ⟨world.nextAllocation⟩
    · subst same
      have live : world.liveValues ⟨world.nextAllocation⟩ = 0 := released.live
      have creating : world.values.count (.creating ⟨world.nextAllocation⟩) = 0 :=
        released.creating
      have heldNone : held.count ⟨world.nextAllocation⟩ = 0 := released.held
      have history' : (world.beginCreate callback).history ⟨world.nextAllocation⟩ = [] :=
        history
      have live' : (world.beginCreate callback).liveValues ⟨world.nextAllocation⟩ = 1 :=
        (live_own_self (.creating ⟨world.nextAllocation⟩)).trans (congrArg Nat.succ live)
      refine .creating ⟨1, .unpublished callback⟩ ⟨?_, ?_, Nat.one_pos, ?_⟩ ?_ ?_ rfl ?_
      · exact Function.update_self _ _ _
      · change 1 = (world.beginCreate callback).liveValues ⟨world.nextAllocation⟩ +
          held.count ⟨world.nextAllocation⟩
        omega
      · change destructions ((world.beginCreate callback).history _) = []
        rw [history']
        rfl
      · exact Function.update_self _ _ _
      · change (world.beginCreate callback).values.count _ = 1
        unfold World.beginCreate
        simp only [List.count_cons_self, creating]
      · change creations ((world.beginCreate callback).history _) = []
        rw [history']
        rfl
    · have sameView : (world.beginCreate callback).view held other =
          world.view held other := by
        simp [World.beginCreate, World.view, World.liveValues, World.history,
          Value.state, Function.update_of_ne same, Ne.symm same]
      rw [sameView]
      exact balanced.phase other
  · have later' : world.nextAllocation + 1 ≤ other.allocation := later
    have notSame : other ≠ ⟨world.nextAllocation⟩ := by
      rintro rfl
      simp only at later'
      omega
    change Function.update world.ucx _ _ other = _
    rw [Function.update_of_ne notSame]
    exact balanced.fresh other (by omega)

/-- Only a state that is being created has a creation in progress. -/
theorem Phase.of_creating {view : View} (phase : Phase view)
    (creating : 0 < view.creating) :
    ∃ inner, Retained view inner ∧ view.creating = 1 ∧
      inner.data.handle = .new ⟨0⟩ ∧ creations view.history = [] := by
  cases phase with
  | absent released => have := released.creating; omega
  | creating inner retained ucx inProgress handle created =>
      exact ⟨inner, retained, inProgress, handle, created⟩
  | listening _ _ _ _ inProgress => omega
  | failed _ _ _ inProgress => omega
  | failedReleased released => have := released.creating; omega
  | destroyed released => have := released.creating; omega

theorem view_giveUp_creating (member : Value.creating state ∈ world.values) :
    (world.giveUp (.creating state)).view held state =
      { world.view held state with
        live := (world.view held state).live - 1
        creating := (world.view held state).creating - 1 } := by
  have live : (world.giveUp (.creating state)).liveValues state =
      world.liveValues state - 1 :=
    Nat.eq_sub_of_add_eq (live_giveUp_self member)
  have removed : (world.giveUp (.creating state)).values.count (.creating state) =
      world.values.count (.creating state) - 1 := List.count_erase_self
  simp only [World.view, live, removed]
  rfl

theorem view_own_listener :
    (world.own (.listener state)).view held state =
      { world.view held state with live := (world.view held state).live + 1 } := by
  have live : (world.own (.listener state)).liveValues state =
      world.liveValues state + 1 := live_own_self (.listener state)
  simp only [World.view, live, @count_creating_own world state (.listener state) trivial]
  rfl

theorem balanced_publish {handle : ListenerHandle} {inner : ArcInner}
    (balanced : Balanced held world) (member : Value.creating state ∈ world.values)
    (nonNull : handle.address ≠ 0) (cell : world.heap state = some inner) :
    Balanced held (((((world.setUcx state (.listening handle)).setCell state
      (some { inner with data := inner.data.publish handle })).giveUp
        (.creating state)).own (.listener state)).record (.created state handle)) := by
  have creating : 0 < (world.view held state).creating :=
    List.count_pos_iff.mpr member
  obtain ⟨found, retained, inProgress, unpublished, created⟩ :=
    (balanced.phase state).of_creating creating
  cases retained.cell.symm.trans cell
  have counted := retained.counted
  have creatingLive := @creating_le_live held world state
  have stillMember : Value.creating state ∈
      ((world.setUcx state (.listening handle)).setCell state
        (some { inner with data := inner.data.publish handle })).values := member
  refine balanced.of_local cell (fun other ne => ?_) ?_ ?_ rfl
  · rw [view_record_of_ne ne, view_own_of_ne ne, view_giveUp_of_ne stillMember ne,
      view_setCell_of_ne _ ne, view_setUcx_of_ne _ ne]
  · rw [view_record (.created state handle) state rfl, view_own_listener,
      view_giveUp_creating stillMember, view_setCell_self, view_setUcx_self]
    refine .listening { inner with data := inner.data.publish handle }
      ⟨rfl, ?_, retained.positive, retained.notDestroyed⟩ handle rfl ?_ ?_ nonNull ?_
    · simp only
      omega
    · simp only [inProgress]
    · rw [ListenerState.publish, UnwindingMutex.Mutex.unlock, unpublished]
      rfl
    · exact congrArg (handle :: ·) created
  · rw [history_record (.created state handle) state rfl]
    exact ⟨⟨nonNull, created⟩, balanced.orderly state⟩

theorem balanced_failCreate (balanced : Balanced held world)
    (member : Value.creating state ∈ world.values) :
    Balanced held ((world.setUcx state .failed).dropValue (.creating state)) := by
  have creating : 0 < (world.view held state).creating :=
    List.count_pos_iff.mpr member
  obtain ⟨inner, retained, inProgress, unpublished, created⟩ :=
    (balanced.phase state).of_creating creating
  have cell : world.heap state = some inner := retained.cell
  have counted := retained.counted
  have creatingLive := @creating_le_live held world state
  have stillMember : Value.creating state ∈ (world.setUcx state .failed).values := member
  refine balanced_dropArc (balanced.of_local cell (fun other ne => ?_) ?_
    (balanced.orderly state) rfl)
  · change World.view (state :: held) _ other = _
    rw [view_cons_of_ne ne, view_giveUp_of_ne stillMember ne, view_setUcx_of_ne _ ne]
  · change Phase (World.view (state :: held) _ state)
    rw [view_cons_self, view_giveUp_creating stillMember, view_setUcx_self]
    refine .failed inner ⟨cell, ?_, retained.positive, retained.notDestroyed⟩ rfl ?_
      unpublished created
    · simp only
      omega
    · simp only [inProgress]

theorem balanced_endCreate {status : UcsStatus} {handle : ListenerHandle}
    (balanced : Balanced held world) (member : Value.creating state ∈ world.values)
    (answer : status.isErr = true ∨ status = .ok ∧ handle.address ≠ 0) :
    Balanced held (world.endCreate state status handle) := by
  rcases answer with isErr | ⟨rfl, nonNull⟩
  · have failed : world.endCreate state status handle =
        (world.setUcx state .failed).dropValue (.creating state) := by
      unfold World.endCreate statusToResult
      simp only [isErr, if_true]
    rw [failed]
    exact balanced_failCreate balanced member
  · have creating : 0 < (world.view held state).creating :=
      List.count_pos_iff.mpr member
    obtain ⟨inner, retained, _⟩ := (balanced.phase state).of_creating creating
    have cell : world.heap state = some inner := retained.cell
    have published : world.endCreate state .ok handle =
        ((((world.setUcx state (.listening handle)).setCell state
          (some { inner with data := inner.data.publish handle })).giveUp
            (.creating state)).own (.listener state)).record (.created state handle) := by
      unfold World.endCreate
      simp only [cell]
      rfl
    rw [published]
    exact balanced_publish balanced member nonNull cell

theorem allocated_of_mem {value : Value} (balanced : Balanced held world)
    (member : value ∈ world.values) :
    ∃ inner, world.heap value.state = some inner := by
  have live := live_giveUp_self member
  refine (balanced.phase value.state).allocated ?_
  change 0 < world.liveValues value.state + held.count value.state
  omega

theorem balanced_reject {listener : ListenerRef} {request : ConnRequest}
    (balanced : Balanced held world)
    (listenerMember : Value.listener listener ∈ world.values)
    (requestMember : Value.connRequest request ∈ world.values) (status : UcsStatus) :
    Balanced held (world.reject listener request status) := by
  obtain ⟨inner, cell⟩ := allocated_of_mem balanced listenerMember
  unfold World.reject
  simp only [Value.state] at cell
  simp only [cell]
  refine balanced_dropValue trivial requestMember ?_
  have recorded := @balanced_record held world
    (.rejected listener request ((inner.data.reject request).execute
      (answering status) []).calls) inner balanced cell
  exact recorded rfl rfl rfl

/-- A request is rejected through the published handle of its own listener, or
not at all. -/
theorem rejectOwned_allowed {inner : ArcInner} {request : ConnRequest}
    (phase : Phase (world.view held request.state))
    (cell : world.heap request.state = some inner) (status : UcsStatus) :
    EventAllowed (world.history request.state) (.rejectedOwned request
      ((inner.data.rejectOwned request).execute (answering status) [])) := by
  have unpublished (handle : inner.data.handle = .new ⟨0⟩) :
      (inner.data.rejectOwned request).execute (answering status) [] =
        ⟨some (.error .errInvalidParam), []⟩ := by
    unfold ListenerState.rejectOwned
    rw [handle]
    rfl
  cases phase with
  | absent released => cases released.cell.symm.trans cell
  | creating found retained ucx inProgress handle created =>
      cases retained.cell.symm.trans cell
      exact .inr ⟨created, unpublished handle⟩
  | listening found retained handle ucx inProgress published nonNull created =>
      cases retained.cell.symm.trans cell
      refine .inl ⟨handle, status, ?_, nonNull, created, retained.notDestroyed⟩
      unfold ListenerState.rejectOwned
      rw [published]
      simp only [UnwindingMutex.Mutex.new, UnwindingMutex.Mutex.lock,
        Bool.false_eq_true, if_false, nonNull]
      rfl
  | failed found retained ucx inProgress handle created =>
      cases retained.cell.symm.trans cell
      exact .inr ⟨created, unpublished handle⟩
  | failedReleased released => cases released.cell.symm.trans cell
  | destroyed released => cases released.cell.symm.trans cell

theorem balanced_rejectOwned {request : ConnRequest}
    (balanced : Balanced held world)
    (member : Value.connRequest request ∈ world.values) (status : UcsStatus) :
    Balanced held (world.rejectOwned request status) := by
  obtain ⟨inner, cell⟩ := allocated_of_mem balanced member
  simp only [Value.state] at cell
  have allowed := rejectOwned_allowed (balanced.phase request.state) cell status
  have destroysNothing : destructions [.rejectedOwned request
      ((inner.data.rejectOwned request).execute (answering status) [])] = [] := by
    rcases allowed with ⟨handle, answered, execution, _⟩ | ⟨-, execution⟩
    · rw [execution]
      rfl
    · rw [execution]
      rfl
  unfold World.rejectOwned
  simp only [cell]
  refine balanced_dropValue trivial member ?_
  exact balanced_record balanced cell allowed rfl destroysNothing

theorem balanced_apiCall {call : ApiCall} {next : World}
    (balanced : Balanced held world) (called : world.apiCall call = some next) :
    Balanced held next := by
  cases call with
  | beginCreate callback =>
      cases called
      exact balanced_beginCreate balanced callback
  | endCreate state status handle =>
      obtain ⟨⟨member, answer⟩, ⟨⟩⟩ := Option.ite_none_right_eq_some.mp called
      exact balanced_endCreate balanced member answer
  | dropListener state =>
      obtain ⟨member, ⟨⟩⟩ := Option.ite_none_right_eq_some.mp called
      exact balanced_dropValue trivial member balanced
  | dropRequest request =>
      obtain ⟨member, ⟨⟩⟩ := Option.ite_none_right_eq_some.mp called
      exact balanced_dropValue trivial member balanced
  | reject listener request status =>
      obtain ⟨⟨listenerMember, requestMember⟩, ⟨⟩⟩ :=
        Option.ite_none_right_eq_some.mp called
      exact balanced_reject balanced listenerMember requestMember status
  | rejectOwned request status =>
      obtain ⟨member, ⟨⟩⟩ := Option.ite_none_right_eq_some.mp called
      exact balanced_rejectOwned balanced member status

theorem balanced_unlockHandler (balanced : Balanced held world) (unwinding : Bool) :
    Balanced held (world.unlockHandler state unwinding) := by
  unfold World.unlockHandler
  cases cell : world.heap state with
  | none => exact balanced
  | some inner =>
      have phase := balanced.phase state
      have retained := (phase.of_cell cell).1
      refine balanced.of_local cell (fun other ne => view_setCell_of_ne _ ne) ?_
        (balanced.orderly state) rfl
      simp only [view_setCell_self]
      exact phase.recount cell rfl rfl retained.counted retained.positive rfl rfl rfl rfl

theorem balanced_runCalls {calls : List ApiCall} {next : World}
    (balanced : Balanced held world) (ran : world.runCalls calls = some next) :
    Balanced held next := by
  induction calls generalizing world with
  | nil =>
      cases ran
      exact balanced
  | cons call calls ih =>
      obtain ⟨middle, called, rest⟩ := Option.bind_eq_some_iff.mp ran
      exact ih (balanced_apiCall balanced called) rest

/-- A held reference keeps its state allocated whatever else is dropped. -/
theorem allocated_of_held (balanced : Balanced (state :: held) world) :
    ∃ inner, world.heap state = some inner := by
  have referred : 0 < (world.view (state :: held) state).held := by
    rw [view_cons_self]
    exact Nat.succ_pos _
  exact (balanced.phase state).allocated (by omega)

theorem balanced_runHandler {behaviour : Behaviour} {completion : Completion Unit}
    {next : World} (balanced : Balanced (state :: held) world)
    (ran : world.runHandler state behaviour = some (completion, next)) :
    Balanced (state :: held) next := by
  obtain ⟨after, called, ⟨⟩⟩ := Option.map_eq_some_iff.mp ran
  have balancedAfter := balanced_runCalls balanced called
  obtain ⟨inner, cell⟩ := allocated_of_held balancedAfter
  have recorded := @balanced_record (state :: held) after
    (.invoked state behaviour.completion.isPanic) inner balancedAfter cell
  exact balanced_unlockHandler (recorded trivial rfl rfl) _

/-- Whatever path the callback takes, it returns with the references of the
values it left behind, and no others. -/
theorem balanced_connTrampoline {connRequest : ConnRequestPointer}
    {arg : Option ListenerRef} {behaviour : Behaviour} {completion : Completion Unit}
    {next : World} (balanced : Balanced held world)
    (allocated : ∀ state, arg = some state → ∃ inner, world.heap state = some inner)
    (delivered : world.connTrampoline connRequest arg behaviour =
      some (completion, next)) :
    Balanced held next := by
  cases arg with
  | none =>
      cases delivered
      exact balanced
  | some state =>
      obtain ⟨inner, cell⟩ := allocated state rfl
      -- the request's reference
      have counted := balanced_incrementStrongCount balanced cell
      have owned := @balanced_own held (world.incrementStrongCount state)
        (.connRequest ⟨connRequest, state⟩) trivial counted
      have member : Value.connRequest ⟨connRequest, state⟩ ∈
          ((world.incrementStrongCount state).own
            (.connRequest ⟨connRequest, state⟩)).values :=
        List.mem_cons_self
      obtain ⟨inner', cell'⟩ := allocated_of_mem owned member
      -- the reference of `callback_state`
      have cloned := balanced_incrementStrongCount owned cell'
      have abandoned : Balanced held (((((world.incrementStrongCount state).own
          (.connRequest ⟨connRequest, state⟩)).incrementStrongCount state).dropArc
            state).dropValue (.connRequest ⟨connRequest, state⟩)) := by
        refine balanced_dropValue trivial ?_ (balanced_dropArc cloned)
        rw [values_dropArc, values_incrementStrongCount]
        exact member
      unfold World.connTrampoline at delivered
      simp only at delivered
      split at delivered
      · cases delivered
      · split at delivered
        · cases delivered
          exact abandoned
        · split at delivered
          · cases delivered
            exact abandoned
          · obtain ⟨⟨_, after⟩, handled, ⟨⟩⟩ := Option.map_eq_some_iff.mp delivered
            exact balanced_dropArc (balanced_runHandler cloned handled)

end Steps

/-- UCX delivers only to allocated states. -/
theorem allocated_of_mayDeliver {held : List ListenerRef} {world : World}
    {state : ListenerRef} (balanced : Balanced held world)
    (mayDeliver : (world.ucx state).mayDeliver = true) :
    ∃ inner, world.heap state = some inner := by
  have notDelivering {listener : UcxListener}
      (ucx : (world.view held state).ucx = listener)
      (silent : listener.mayDeliver = false) : False := by
    have ucxEq : world.ucx state = listener := ucx
    rw [ucxEq, silent] at mayDeliver
    cases mayDeliver
  cases balanced.phase state with
  | absent _ ucx => exact (notDelivering ucx rfl).elim
  | creating inner retained => exact ⟨inner, retained.cell⟩
  | listening inner retained => exact ⟨inner, retained.cell⟩
  | failed inner retained => exact ⟨inner, retained.cell⟩
  | failedReleased _ ucx => exact (notDelivering ucx rfl).elim
  | destroyed _ handle ucx => exact (notDelivering ucx rfl).elim

theorem balanced_step {world next : World} {label : Label}
    (balanced : Balanced [] world) (stepEq : step world label = some next) :
    Balanced [] next := by
  cases label with
  | api call => exact balanced_apiCall balanced stepEq
  | deliver state connRequest behaviour =>
      obtain ⟨mayDeliver, returned⟩ := Option.ite_none_right_eq_some.mp stepEq
      obtain ⟨⟨_, _⟩, delivered, rfl⟩ := Option.map_eq_some_iff.mp returned
      refine balanced_connTrampoline balanced (fun found foundEq => ?_) delivered
      cases foundEq
      exact allocated_of_mayDeliver balanced mayDeliver

theorem balanced_of_run {run : List Label} {final : World}
    (runEq : TransitionRuns.runFrom step .initial run = some final) :
    Balanced [] final :=
  TransitionRuns.invariant_of_run balanced_step runEq balanced_initial

/-- What a world owes about one listener state: the strong count is the number
of values that refer to it; a successful creation is destroyed once, with its
own non-null handle, when that number is zero, and nothing else is destroyed;
and its events are ordered as `EventAllowed` says. -/
structure Accounted (world : World) (state : ListenerRef) : Prop where
  counted : world.strongCount state = world.liveValues state
  createdOnce : (creations (world.history state)).length ≤ 1
  nonNull : ∀ handle ∈ creations (world.history state), handle.address ≠ 0
  destroyed : destructions (world.history state) =
    if world.liveValues state = 0 then creations (world.history state) else []
  orderly : Orderly (world.history state)

theorem nonNull_of_orderly {history : List Event} (orderly : Orderly history) :
    ∀ handle ∈ creations history, handle.address ≠ 0 := by
  induction history with
  | nil => simp [creations]
  | cons event earlier ih =>
      obtain ⟨allowed, rest⟩ := orderly
      intro handle member
      cases event with
      | created state returned =>
          rcases List.mem_cons.mp member with rfl | later
          · exact allowed.1
          · exact ih rest handle later
      | stateDropped _ _ => exact ih rest handle member
      | closureDropped _ => exact ih rest handle member
      | invoked _ _ => exact ih rest handle member
      | rejected _ _ _ => exact ih rest handle member
      | rejectedOwned _ _ => exact ih rest handle member

theorem accounted_of_balanced {world : World} (balanced : Balanced [] world)
    (state : ListenerRef) : Accounted world state := by
  have orderly := balanced.orderly state
  have nonNull := nonNull_of_orderly orderly
  have allocated {inner : ArcInner} (retained : Retained (world.view [] state) inner)
      (creatingOnce : (creations (world.history state)).length ≤ 1) :
      Accounted world state := by
    have counted : inner.strong = world.liveValues state + 0 := retained.counted
    have positive := retained.positive
    have cell : world.heap state = some inner := retained.cell
    refine ⟨?_, creatingOnce, nonNull, ?_, orderly⟩
    · unfold World.strongCount
      rw [cell]
      exact counted
    · rw [if_neg (by omega)]
      exact retained.notDestroyed
  have unallocated (released : Released (world.view [] state))
      (creatingOnce : (creations (world.history state)).length ≤ 1)
      (destroyed : destructions (world.history state) = creations (world.history state)) :
      Accounted world state := by
    have live : world.liveValues state = 0 := released.live
    have cell : world.heap state = none := released.cell
    refine ⟨?_, creatingOnce, nonNull, ?_, orderly⟩
    · unfold World.strongCount
      rw [cell, live]
    · rw [if_pos live]
      exact destroyed
  have atMostOne {handles : List ListenerHandle}
      (created : creations (world.history state) = handles)
      (bound : handles.length ≤ 1) : (creations (world.history state)).length ≤ 1 := by
    rw [created]
    exact bound
  cases balanced.phase state with
  | absent released _ history =>
      have historyEq : world.history state = [] := history
      refine unallocated released ?_ ?_
      · rw [historyEq]
        exact Nat.zero_le 1
      · rw [historyEq]
        rfl
  | creating inner retained _ _ _ created =>
      exact allocated retained (atMostOne created (Nat.zero_le 1))
  | listening inner retained _ _ _ _ _ created =>
      exact allocated retained (atMostOne created (Nat.le_refl 1))
  | failed inner retained _ _ _ created =>
      exact allocated retained (atMostOne created (Nat.zero_le 1))
  | failedReleased released _ created notDestroyed =>
      exact unallocated released (atMostOne created (Nat.zero_le 1))
        (notDestroyed.trans created.symm)
  | destroyed released _ _ created destroyed =>
      exact unallocated released (atMostOne created (Nat.le_refl 1))
        (destroyed.trans created.symm)

/-- In every reachable state every listener state is accounted for. -/
theorem listeners_accounted {run : List Label} {final : World}
    (runEq : TransitionRuns.runFrom step .initial run = some final)
    (state : ListenerRef) : Accounted final state :=
  accounted_of_balanced (balanced_of_run runEq) state

/-- A request is delivered before the handle is published and kept, a second
one is rejected by its handler, the listener goes first and the kept request
last. -/
def delayedTeardown : List Label :=
  [.api (.beginCreate ⟨0⟩),
    .deliver ⟨0⟩ ⟨16⟩ ⟨[], .returned ()⟩,
    .api (.endCreate ⟨0⟩ .ok ⟨4096⟩),
    .deliver ⟨0⟩ ⟨32⟩ ⟨[.rejectOwned ⟨⟨32⟩, ⟨0⟩⟩ .ok], .panicked⟩,
    .api (.dropListener ⟨0⟩),
    .api (.dropRequest ⟨⟨16⟩, ⟨0⟩⟩)]

theorem delayedTeardown_accounted :
    ∃ final, TransitionRuns.runFrom step .initial delayedTeardown = some final ∧
      destructions (final.history ⟨0⟩) = [⟨4096⟩] ∧ Accounted final ⟨0⟩ :=
  ⟨_, rfl, rfl, @listeners_accounted delayedTeardown _ rfl ⟨0⟩⟩

end ListenerOwnership

end UcxRs
