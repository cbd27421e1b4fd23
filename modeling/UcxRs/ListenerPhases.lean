import UcxRs.ListenerWorld

/-!
# The phases of a listener state

A listener state is allocated while its creation is in progress, while UCX
listens, or after a failed creation that left requests behind; it is freed by
the drop of its last reference.  This file states the phases, what the events
of a state may be, and what dropping one reference does to its phase.
-/

namespace UcxRs

namespace ListenerOwnership

open Interaction (Execution)
open UnwindingMutex (Mutex)

def Event.calls : Event → List Call
  | stateDropped _ calls => calls
  | rejected _ _ calls => calls
  | rejectedOwned _ execution => execution.calls
  | _ => []

/-- The handles that successful creations of a state returned. -/
def creations (history : List Event) : List ListenerHandle :=
  history.filterMap fun
    | .created _ handle => some handle
    | _ => none

/-- The handles that `ucp_listener_destroy` was called with. -/
def destructions (history : List Event) : List ListenerHandle :=
  history.flatMap fun event => event.calls.filterMap destroyedHandle

namespace World

def strongCount (world : World) (state : ListenerRef) : Nat :=
  match world.heap state with
  | none => 0
  | some inner => inner.strong

/-- The owned values that refer to a state, a creation in progress counting as
a listener. -/
def liveValues (world : World) (state : ListenerRef) : Nat :=
  world.values.countP fun value => decide (value.state = state)

/-- The events about one state, newest first. -/
def history (world : World) (state : ListenerRef) : List Event :=
  world.log.filter fun event => decide (event.state = state)

end World

/-- What an event may be, given the earlier events about its state.  The
closure goes after the destroy call of a successful creation, and a request is
rejected through its own listener only while that listener exists; it is refused
without a call only as long as no handle was published. -/
def EventAllowed (earlier : List Event) : Event → Prop
  | .created _ handle => handle.address ≠ 0 ∧ creations earlier = []
  | .stateDropped _ calls =>
      destructions earlier = [] ∧ calls.filterMap destroyedHandle = creations earlier
  | .closureDropped _ => destructions earlier = creations earlier
  | .invoked _ _ => True
  | .rejected _ _ calls => calls.filterMap destroyedHandle = []
  | .rejectedOwned request execution =>
      (∃ handle status, execution =
          ⟨some (statusToResult status), [.ucpListenerReject handle request.handle]⟩ ∧
        handle.address ≠ 0 ∧ creations earlier = [handle] ∧
        destructions earlier = []) ∨
      (creations earlier = [] ∧ execution = ⟨some (.error .errInvalidParam), []⟩)

def Orderly : List Event → Prop
  | [] => True
  | event :: earlier => EventAllowed earlier event ∧ Orderly earlier

/-- Everything the world holds about one state; `held` counts the references in
local variables of the running callback. -/
structure View where
  cell : Option ArcInner
  ucx : UcxListener
  live : Nat
  creating : Nat
  held : Nat
  history : List Event

def World.view (held : List ListenerRef) (world : World) (state : ListenerRef) :
    View where
  cell := world.heap state
  ucx := world.ucx state
  live := world.liveValues state
  creating := world.values.count (.creating state)
  held := held.count state
  history := world.history state

/-- A state that is allocated: its count is the number of its references. -/
structure Retained (view : View) (inner : ArcInner) : Prop where
  cell : view.cell = some inner
  counted : inner.strong = view.live + view.held
  positive : 0 < inner.strong
  notDestroyed : destructions view.history = []

/-- A state that is not allocated: nothing refers to it. -/
structure Released (view : View) : Prop where
  cell : view.cell = none
  live : view.live = 0
  creating : view.creating = 0
  held : view.held = 0

/-- The phases of a listener state. -/
inductive Phase (view : View) : Prop where
  | absent (released : Released view) (ucx : view.ucx = .absent)
      (history : view.history = [])
  | creating (inner : ArcInner) (retained : Retained view inner)
      (ucx : view.ucx = .creating) (inProgress : view.creating = 1)
      (handle : inner.data.handle = .new ⟨0⟩) (created : creations view.history = [])
  | listening (inner : ArcInner) (retained : Retained view inner)
      (handle : ListenerHandle) (ucx : view.ucx = .listening handle)
      (inProgress : view.creating = 0) (published : inner.data.handle = .new handle)
      (nonNull : handle.address ≠ 0) (created : creations view.history = [handle])
  | failed (inner : ArcInner) (retained : Retained view inner)
      (ucx : view.ucx = .failed) (inProgress : view.creating = 0)
      (handle : inner.data.handle = .new ⟨0⟩) (created : creations view.history = [])
  | failedReleased (released : Released view) (ucx : view.ucx = .failed)
      (created : creations view.history = [])
      (notDestroyed : destructions view.history = [])
  | destroyed (released : Released view) (handle : ListenerHandle)
      (ucx : view.ucx = .destroyed handle) (created : creations view.history = [handle])
      (destroyed : destructions view.history = [handle])

/-- The invariant of the world while local variables hold some references. -/
structure Balanced (held : List ListenerRef) (world : World) : Prop where
  phase : ∀ state, Phase (world.view held state)
  orderly : ∀ state, Orderly (world.history state)
  fresh : ∀ state : ListenerRef, world.nextAllocation ≤ state.allocation →
    world.ucx state = .absent

theorem balanced_initial : Balanced [] World.initial where
  phase _ := .absent ⟨rfl, rfl, rfl, rfl⟩ rfl rfl
  orderly _ := trivial
  fresh _ _ := rfl

section Views

variable {held : List ListenerRef} {world : World} {state other : ListenerRef}

theorem history_record (event : Event) (state : ListenerRef)
    (about : event.state = state) :
    (world.record event).history state = event :: world.history state := by
  simp [World.record, World.history, about]

theorem history_record_of_ne {event : Event} (ne : other ≠ event.state) :
    (world.record event).history other = world.history other := by
  simp [World.record, World.history, ne.symm]

theorem view_record (event : Event) (state : ListenerRef)
    (about : event.state = state) :
    (world.record event).view held state =
      { world.view held state with history := event :: world.history state } := by
  simp only [World.view, history_record event state about]
  rfl

theorem view_record_of_ne {event : Event} (ne : other ≠ event.state) :
    (world.record event).view held other = world.view held other := by
  simp only [World.view, history_record_of_ne ne]
  rfl

theorem view_setCell_self (cell : Option ArcInner) :
    (world.setCell state cell).view held state =
      { world.view held state with cell := cell } := by
  simp only [World.setCell, World.view, Function.update_self]
  rfl

theorem view_setCell_of_ne (cell : Option ArcInner) (ne : other ≠ state) :
    (world.setCell state cell).view held other = world.view held other := by
  simp only [World.setCell, World.view, Function.update_of_ne ne]
  rfl

theorem view_setUcx_self (listener : UcxListener) :
    (world.setUcx state listener).view held state =
      { world.view held state with ucx := listener } := by
  simp only [World.setUcx, World.view, Function.update_self]
  rfl

theorem view_setUcx_of_ne (listener : UcxListener) (ne : other ≠ state) :
    (world.setUcx state listener).view held other = world.view held other := by
  simp only [World.setUcx, World.view, Function.update_of_ne ne]
  rfl

theorem view_cons_of_ne (ne : other ≠ state) :
    world.view (state :: held) other = world.view held other := by
  simp [World.view, ne.symm]

theorem view_cons_self :
    world.view (state :: held) state =
      { world.view held state with held := (world.view held state).held + 1 } := by
  simp [World.view]

theorem creating_le_live : (world.view held state).creating ≤ (world.view held state).live := by
  refine List.countP_mono_left fun value _ isCreating => ?_
  rw [eq_of_beq isCreating]
  exact decide_eq_true rfl

theorem drop_calls {data : ListenerState} {handle : ListenerHandle}
    (handleEq : data.handle = .new handle) :
    (data.drop.execute (answering .ok) []).calls =
      if handle.address ≠ 0 then [.ucpListenerDestroy handle] else [] := by
  have handleIs : data.handle.lockIgnoringPoison = handle := by
    rw [UnwindingMutex.Mutex.lockIgnoringPoison_eq, handleEq]
    rfl
  have locks : data.handle.lock = .ok handle := by
    rw [handleEq]
    rfl
  unfold ListenerState.drop
  simp only [handleIs, locks]
  by_cases nonNull : handle.address ≠ 0
  · rw [if_pos nonNull, if_pos nonNull]
    exact congrArg (fun handle => [Call.ucpListenerDestroy handle]) handleIs
  · rw [if_neg nonNull, if_neg nonNull]
    rfl

/-- The events that dropping a state adds to its history. -/
def dropEvents (state : ListenerRef) (data : ListenerState) : List Event :=
  let calls := (data.drop.execute (answering .ok) []).calls
  if data.connHandler.isSome then [.closureDropped state, .stateDropped state calls]
  else [.stateDropped state calls]

theorem history_dropState (data : ListenerState) :
    (world.dropState state data).history state =
      dropEvents state data ++ world.history state := by
  have freed (listener : UcxListener) :
      ((world.setCell state none).setUcx state listener).history state =
        world.history state := rfl
  unfold World.dropState dropEvents
  by_cases closure : data.connHandler.isSome = true
  · simp only [closure, if_true]
    rw [history_record (.closureDropped state) state rfl,
      history_record (.stateDropped state _) state rfl, freed]
    rfl
  · simp only [closure, if_false, Bool.false_eq_true]
    rw [history_record (.stateDropped state _) state rfl, freed]
    rfl

theorem values_dropState (data : ListenerState) :
    (world.dropState state data).values = world.values := by
  unfold World.dropState
  simp only
  split <;> rfl

theorem view_dropState_of_ne (data : ListenerState) (ne : other ≠ state) :
    (world.dropState state data).view held other = world.view held other := by
  unfold World.dropState
  simp only
  split
  · rw [view_record_of_ne ne, view_record_of_ne ne, view_setUcx_of_ne _ ne,
      view_setCell_of_ne _ ne]
  · rw [view_record_of_ne ne, view_setUcx_of_ne _ ne, view_setCell_of_ne _ ne]

theorem view_dropArc_of_ne (ne : other ≠ state) :
    (world.dropArc state).view held other = world.view (state :: held) other := by
  rw [view_cons_of_ne ne]
  unfold World.dropArc
  split
  · rfl
  · split
    · exact view_dropState_of_ne _ ne
    · exact view_setCell_of_ne _ ne

theorem creations_dropEvents (data : ListenerState) (earlier : List Event) :
    creations (dropEvents state data ++ earlier) = creations earlier := by
  unfold dropEvents
  simp only
  split <;> rfl

theorem destructions_dropEvents (data : ListenerState) (earlier : List Event) :
    destructions (dropEvents state data ++ earlier) =
      (data.drop.execute (answering .ok) []).calls.filterMap destroyedHandle ++
        destructions earlier := by
  unfold dropEvents
  simp only
  split <;> rfl

theorem orderly_dropEvents {data : ListenerState} {earlier : List Event}
    (orderly : Orderly earlier) (notDestroyed : destructions earlier = [])
    (calls : (data.drop.execute (answering .ok) []).calls.filterMap destroyedHandle =
      creations earlier) :
    Orderly (dropEvents state data ++ earlier) := by
  have stateDropped : Orderly (.stateDropped state
      (data.drop.execute (answering .ok) []).calls :: earlier) :=
    ⟨⟨notDestroyed, calls⟩, orderly⟩
  unfold dropEvents
  simp only
  split
  · refine ⟨?_, stateDropped⟩
    change List.filterMap destroyedHandle _ ++ destructions earlier = creations earlier
    rw [notDestroyed, List.append_nil]
    exact calls
  · exact stateDropped

section DropArc

variable {inner : ArcInner}

theorem view_dropArc_of_shared (cell : world.heap state = some inner)
    (shared : inner.strong ≠ 1) :
    (world.dropArc state).view held state =
      { world.view held state with
        cell := some { inner with strong := inner.strong - 1 } } := by
  unfold World.dropArc
  simp only [cell, shared, if_false]
  exact view_setCell_self _

theorem dropArc_of_last (cell : world.heap state = some inner)
    (last : inner.strong = 1) :
    world.dropArc state = world.dropState state inner.data := by
  unfold World.dropArc
  simp only [cell, last, if_true]

/-- The last reference is the only one. -/
theorem Retained.released_of_last
    (retained : Retained (world.view (state :: held) state) inner)
    (last : inner.strong = 1) :
    Released ((world.dropState state inner.data).view held state) := by
  have counted := retained.counted
  have creatingLive := @creating_le_live held world state
  rw [view_cons_self] at counted
  simp only [last] at counted
  have heapFreed : (world.dropState state inner.data).heap state = none := by
    unfold World.dropState
    simp only
    split <;> exact Function.update_self _ _ _
  have sameValues := @values_dropState world state inner.data
  have live : (world.view held state).live = 0 := by omega
  refine ⟨heapFreed, ?_, ?_, ?_⟩
  · change (world.dropState state inner.data).values.countP _ = 0
    rw [sameValues]
    exact live
  · change (world.dropState state inner.data).values.count _ = 0
    rw [sameValues]
    change (world.view held state).creating = 0
    omega
  · change (world.view held state).held = 0
    omega

end DropArc

theorem ucx_dropState (data : ListenerState) :
    (world.dropState state data).ucx state =
      (world.ucx state).afterCalls (data.drop.execute (answering .ok) []).calls := by
  unfold World.dropState
  simp only
  split <;> exact Function.update_self _ _ _

/-- In every phase of an allocated state its destructor would destroy what its
creation returned. -/
theorem Phase.of_cell {view : View} {inner : ArcInner} (phase : Phase view)
    (cell : view.cell = some inner) :
    Retained view inner ∧
      (inner.data.drop.execute (answering .ok) []).calls.filterMap destroyedHandle =
        creations view.history := by
  cases phase with
  | absent released =>
      rw [released.cell] at cell
      cases cell
  | creating found retained ucx inProgress handle created =>
      rw [retained.cell] at cell
      cases cell
      rw [drop_calls handle, if_neg (by simp), created]
      exact ⟨retained, rfl⟩
  | listening found retained handle ucx inProgress published nonNull created =>
      rw [retained.cell] at cell
      cases cell
      rw [drop_calls published, if_pos nonNull, created]
      exact ⟨retained, rfl⟩
  | failed found retained ucx inProgress handle created =>
      rw [retained.cell] at cell
      cases cell
      rw [drop_calls handle, if_neg (by simp), created]
      exact ⟨retained, rfl⟩
  | failedReleased released =>
      rw [released.cell] at cell
      cases cell
  | destroyed released =>
      rw [released.cell] at cell
      cases cell

/-- An allocated state stays in its phase while its references only move or
its count follows them. -/
theorem Phase.recount {view view' : View} {inner inner' : ArcInner}
    (phase : Phase view) (cell : view.cell = some inner)
    (cell' : view'.cell = some inner')
    (sameHandle : inner'.data.handle = inner.data.handle)
    (counted : inner'.strong = view'.live + view'.held)
    (positive : 0 < inner'.strong) (sameUcx : view'.ucx = view.ucx)
    (sameCreating : view'.creating = view.creating)
    (sameCreations : creations view'.history = creations view.history)
    (sameDestructions : destructions view'.history = destructions view.history) :
    Phase view' := by
  have retained := (phase.of_cell cell).1
  have retained' : Retained view' inner' :=
    ⟨cell', counted, positive, sameDestructions.trans retained.notDestroyed⟩
  cases phase with
  | absent released =>
      rw [released.cell] at cell
      cases cell
  | creating found retained ucx inProgress handle created =>
      rw [retained.cell] at cell
      cases cell
      exact .creating inner' retained' (sameUcx.trans ucx)
        (sameCreating.trans inProgress) (sameHandle.trans handle)
        (sameCreations.trans created)
  | listening found retained handle ucx inProgress published nonNull created =>
      rw [retained.cell] at cell
      cases cell
      exact .listening inner' retained' handle (sameUcx.trans ucx)
        (sameCreating.trans inProgress) (sameHandle.trans published) nonNull
        (sameCreations.trans created)
  | failed found retained ucx inProgress handle created =>
      rw [retained.cell] at cell
      cases cell
      exact .failed inner' retained' (sameUcx.trans ucx)
        (sameCreating.trans inProgress) (sameHandle.trans handle)
        (sameCreations.trans created)
  | failedReleased released =>
      rw [released.cell] at cell
      cases cell
  | destroyed released =>
      rw [released.cell] at cell
      cases cell

/-- A state that something refers to is allocated. -/
theorem Phase.allocated {view : View} (phase : Phase view)
    (referred : 0 < view.live + view.held) : ∃ inner, view.cell = some inner := by
  cases phase with
  | absent released => have := released.live; have := released.held; omega
  | creating inner retained => exact ⟨inner, retained.cell⟩
  | listening inner retained => exact ⟨inner, retained.cell⟩
  | failed inner retained => exact ⟨inner, retained.cell⟩
  | failedReleased released => have := released.live; have := released.held; omega
  | destroyed released => have := released.live; have := released.held; omega

/-- The last reference of a published state destroys its UCX listener; an
unpublished state is just freed. -/
theorem phase_dropState {inner : ArcInner}
    (phase : Phase (world.view (state :: held) state))
    (cell : world.heap state = some inner) (last : inner.strong = 1) :
    Phase ((world.dropState state inner.data).view held state) := by
  have retained := (phase.of_cell cell).1
  have released := retained.released_of_last last
  have creations_eq :
      creations ((world.dropState state inner.data).history state) =
        creations (world.history state) := by
    rw [history_dropState, creations_dropEvents]
  have destructions_eq :
      destructions ((world.dropState state inner.data).history state) =
        (inner.data.drop.execute (answering .ok) []).calls.filterMap destroyedHandle := by
    have notDestroyed : destructions (world.history state) = [] := retained.notDestroyed
    rw [history_dropState, destructions_dropEvents, notDestroyed, List.append_nil]
  have ucx_eq := @ucx_dropState world state inner.data
  have unallocated : ¬ Released (world.view (state :: held) state) := by
    intro nothing
    have found := retained.cell
    rw [nothing.cell] at found
    cases found
  cases phase with
  | absent nothing => exact absurd nothing unallocated
  | creating found retained' ucx inProgress handle created =>
      have counted := retained.counted
      have creatingLive := @creating_le_live (state :: held) world state
      rw [view_cons_self] at counted inProgress creatingLive
      simp only at counted inProgress creatingLive
      omega
  | listening found retained' handle ucx inProgress published nonNull created =>
      cases retained'.cell.symm.trans retained.cell
      rw [drop_calls published, if_pos nonNull] at destructions_eq ucx_eq
      exact .destroyed released handle ucx_eq (creations_eq.trans created)
        destructions_eq
  | failed found retained' ucx inProgress handle created =>
      cases retained'.cell.symm.trans retained.cell
      rw [drop_calls handle, if_neg (by simp)] at destructions_eq ucx_eq
      exact .failedReleased released (ucx_eq.trans ucx) (creations_eq.trans created)
        destructions_eq
  | failedReleased nothing => exact absurd nothing unallocated
  | destroyed nothing => exact absurd nothing unallocated

theorem phase_dropArc (phase : Phase (world.view (state :: held) state)) :
    Phase ((world.dropArc state).view held state) := by
  have referred : 0 < (world.view (state :: held) state).held := by
    rw [view_cons_self]
    exact Nat.succ_pos _
  obtain ⟨inner, cell⟩ := phase.allocated (by omega)
  by_cases last : inner.strong = 1
  · rw [dropArc_of_last cell last]
    exact phase_dropState phase cell last
  · have retained := (phase.of_cell cell).1
    have counted := retained.counted
    have positive := retained.positive
    rw [view_cons_self] at counted
    simp only at counted
    refine phase.recount cell (congrArg View.cell (view_dropArc_of_shared cell last))
      rfl ?_ ?_ ?_ ?_ ?_ ?_
    · rw [view_dropArc_of_shared cell last]
      simp only
      omega
    · simp only
      omega
    all_goals rw [view_dropArc_of_shared cell last]
    all_goals rfl

theorem orderly_dropArc (phase : Phase (world.view (state :: held) state))
    (orderly : Orderly (world.history state)) :
    Orderly ((world.dropArc state).history state) := by
  cases cell : world.heap state with
  | none =>
      unfold World.dropArc
      simp only [cell]
      exact orderly
  | some inner =>
      obtain ⟨retained, calls⟩ := phase.of_cell cell
      by_cases last : inner.strong = 1
      · rw [dropArc_of_last cell last, history_dropState]
        exact orderly_dropEvents orderly retained.notDestroyed calls
      · change Orderly ((world.dropArc state).view held state).history
        rw [view_dropArc_of_shared cell last]
        exact orderly

theorem Phase.ucx_ne_absent {view : View} {inner : ArcInner} (phase : Phase view)
    (cell : view.cell = some inner) : view.ucx ≠ .absent := by
  intro absent
  cases phase with
  | absent released =>
      rw [released.cell] at cell
      cases cell
  | creating _ _ ucx => cases ucx.symm.trans absent
  | listening _ _ _ ucx => cases ucx.symm.trans absent
  | failed _ _ ucx => cases ucx.symm.trans absent
  | failedReleased _ ucx => cases ucx.symm.trans absent
  | destroyed _ _ ucx => cases ucx.symm.trans absent

end Views

end ListenerOwnership

end UcxRs
