import UcxRs.PostingOperations
import UcxRs.TransitionRuns

/-!
# Probed messages are received at most once

A probe that removes its message hands the message over to the wrapper, and a
receive on the `MessageHandle` gives it back to UCX, which may then use the
descriptor for another message.  `tag_msg_recv` borrows the handle and does not
mark it, so a handle can be received again.  The runs here probe and receive in
any order; UCX does not hand out a message again that was removed and not yet
received.
-/

namespace UcxRs

namespace ProbedMessages

open Interaction (Environment Execution)
open Interaction.Program
open TransitionRuns

/-- A probe returned a message, or a message was received with the handle that is
at a position. -/
inductive Event where
  | probed (message : MessagePointer) (remove : Bool)
  | received (position : Nat) (message : MessagePointer)
  deriving DecidableEq, Repr

def probeAnswers (message : MessagePointer) (info : UcpTagRecvInfo) :
    Environment Call Answer :=
  fun _ call =>
    match call with
    | .ucpTagProbeNb _ _ _ _ => some (message, info)
    | _ => none

def recvAnswers (ptr : Word) : Environment Call Answer :=
  fun _ call =>
    match call with
    | .ucpTagMsgRecvNbx _ _ _ _ => some ptr
    | _ => none

/-- A probe that returned a message. -/
def probeEvent (message : MessagePointer) : Call → Option Event
  | .ucpTagProbeNb _ _ _ remove =>
      if message.address ≠ 0 then some (.probed message remove) else none
  | _ => none

def recvEvent (position : Nat) : Call → Option Event
  | .ucpTagMsgRecvNbx _ _ message _ => some (.received position message)
  | _ => none

/-- Whether a message was removed and not received since, by a log with the newest
event first. -/
def owned (message : MessagePointer) : List Event → Bool
  | [] => false
  | .probed other remove :: log => (other == message && remove) || owned message log
  | .received _ other :: log => other != message && owned message log

/-- How often UCX received the message of the handle at a position. -/
def receipts (position : Nat) (log : List Event) : Nat :=
  log.countP fun
    | .received other _ => other == position
    | .probed _ _ => false

/-- The handles that probes returned, the positions of those that are gone, and
the log. -/
structure World where
  handles : List MessageHandle
  ended : List Nat
  log : List Event
  deriving DecidableEq, Repr

def World.initial : World where
  handles := []
  ended := []
  log := []

inductive Label where
  | probe (worker : Worker) (tag tagMask : Word) (remove : Bool) (message : MessagePointer)
      (info : UcpTagRecvInfo)
  | recv (worker : Worker) (data : Buffer) (position : Nat) (param : RequestParam)
      (ptr : Word)
  | leave (position : Nat)

/-- A handle can be received for as long as it is in scope; a panic leaves it
there. -/
def step (world : World) : Label → Option World
  | .probe worker tag tagMask remove message info =>
      if remove = true ∧ owned message world.log = true then none
      else
        let execution := (worker.tagProbe tag tagMask remove).execute
          (probeAnswers message info) []
        some { world with
          handles := world.handles ++ execution.result.join.toList
          log := execution.calls.filterMap (probeEvent message) ++ world.log }
  | .recv worker data position param ptr =>
      if position ∈ world.ended then none
      else do
        let message ← world.handles[position]?
        let execution := (worker.tagMsgRecv data message param).execute (recvAnswers ptr) []
        some { world with
          log := execution.calls.filterMap (recvEvent position) ++ world.log }
  | .leave position => some { world with ended := position :: world.ended }

/-- UCX receives only messages whose probe removed them. -/
def OnlyRemoved (world : World) : Prop :=
  ∀ position message, .received position message ∈ world.log →
    ∃ handle, world.handles[position]? = some handle ∧ handle.handle = message ∧
      handle.removed = true

/-- UCX receives the message of a handle at most once, only if its probe removed
it, and while it is removed and not yet received. -/
structure ReceivedOnce (world : World) : Prop where
  once : ∀ position, receipts position world.log ≤ 1
  removed : OnlyRemoved world
  live : ∀ later position message earlier,
    world.log = later ++ .received position message :: earlier → owned message earlier = true

/-- A receive is not given a handle whose message was received before. -/
def Unreceived (world : World) (label : Label) (_next : World) : Prop :=
  ∀ worker data position param ptr, label = .recv worker data position param ptr →
    ∀ handle, world.handles[position]? = some handle → handle.removed = true →
      receipts position world.log = 0

/-- A probe that returns a message. -/
structure Probed (world : World) (handle : MessageHandle) (next : World) : Prop where
  handles : next.handles = world.handles ++ [handle]
  log : next.log = .probed handle.handle handle.removed :: world.log
  fresh : handle.removed = true → owned handle.handle world.log = false

/-- A receive of a removed message. -/
structure Received (world : World) (position : Nat) (handle : MessageHandle)
    (next : World) : Prop where
  found : world.handles[position]? = some handle
  removed : handle.removed = true
  handles : next.handles = world.handles
  log : next.log = .received position handle.handle :: world.log

theorem execute_tagProbe (worker : Worker) (tag tagMask : Word) (remove : Bool)
    (message : MessagePointer) (info : UcpTagRecvInfo) :
    (worker.tagProbe tag tagMask remove).execute (probeAnswers message info) [] =
      ⟨some (if message.address ≠ 0 then
          some { handle := message, info := .fromFfi info, removed := remove } else none),
        [.ucpTagProbeNb worker.handle tag tagMask remove]⟩ := by
  unfold Worker.tagProbe
  rw [call_bind, execute_issue_some rfl]
  by_cases null : message.address ≠ 0
  · simp only [if_pos null]
    rfl
  · simp only [if_neg null]
    rfl

theorem execute_tagMsgRecv {worker : Worker} {data : Buffer} {message : MessageHandle}
    {param : RequestParam} {ptr : Word} (removed : message.removed = true) :
    (worker.tagMsgRecv data message param).execute (recvAnswers ptr) [] =
      ⟨some (some (statusPtrToResult ptr)),
        [.ucpTagMsgRecvNbx worker.handle data message.handle param.handle]⟩ := by
  unfold Worker.tagMsgRecv
  rw [removed]
  exact execute_issue_some rfl _

/-- The panic comes before the call. -/
theorem execute_tagMsgRecv_of_queued {worker : Worker} {data : Buffer}
    {message : MessageHandle} {param : RequestParam} {ptr : Word}
    (queued : message.removed = false) :
    (worker.tagMsgRecv data message param).execute (recvAnswers ptr) [] = ⟨some none, []⟩ := by
  unfold Worker.tagMsgRecv
  rw [queued]
  rfl

/-- Every step probes a message, receives a removed one, or changes nothing that
UCX sees; only the receive of a removed message is one that the condition is
about. -/
theorem step_cases {world next : World} {label : Label} (stepEq : step world label = some next) :
    (∃ handle, Probed world handle next ∧ Unreceived world label next) ∨
    (∃ position handle, Received world position handle next ∧
      (Unreceived world label next ↔ receipts position world.log = 0)) ∨
    (next.handles = world.handles ∧ next.log = world.log ∧ Unreceived world label next) := by
  cases label with
  | probe worker tag tagMask remove message info =>
      have vacuous : Unreceived world (.probe worker tag tagMask remove message info) next :=
        fun _ _ _ _ _ isRecv => nomatch isRecv
      obtain ⟨available, ⟨⟩⟩ := Option.ite_none_left_eq_some.mp stepEq
      by_cases null : message.address ≠ 0
      · refine Or.inl ⟨⟨message, .fromFfi info, remove⟩, ⟨?_, ?_, ?_⟩, vacuous⟩
        · simp only [execute_tagProbe, if_pos null]
          rfl
        · simp only [execute_tagProbe, List.filterMap_cons, probeEvent, if_pos null]
          rfl
        · intro removes
          rw [← Bool.not_eq_true]
          exact fun isOwned => available ⟨removes, isOwned⟩
      · refine Or.inr (Or.inr ⟨?_, ?_, vacuous⟩)
        · simp only [execute_tagProbe, if_neg null]
          exact List.append_nil _
        · simp only [execute_tagProbe, List.filterMap_cons, probeEvent, if_neg null]
          rfl
  | recv worker data position param ptr =>
      obtain ⟨_, ran⟩ := Option.ite_none_left_eq_some.mp stepEq
      obtain ⟨handle, found, ⟨⟩⟩ := Option.bind_eq_some_iff.mp ran
      cases removed : handle.removed with
      | true =>
          refine Or.inr (Or.inl ⟨position, handle, ⟨found, removed, rfl, ?_⟩, ?_⟩)
          · simp only [execute_tagMsgRecv removed]
            rfl
          · constructor
            · exact fun unreceived => unreceived _ _ _ _ _ rfl handle found removed
            · rintro none _ _ _ _ _ ⟨⟩ _ _ _
              exact none
      | false =>
          refine Or.inr (Or.inr ⟨rfl, ?_, ?_⟩)
          · simp only [execute_tagMsgRecv_of_queued removed]
            rfl
          · rintro _ _ _ _ _ ⟨⟩ other otherFound otherRemoved
            obtain rfl := Option.some.inj (found.symm.trans otherFound)
            cases removed.symm.trans otherRemoved
  | leave position =>
      obtain rfl := Option.some.inj stepEq
      exact Or.inr (Or.inr ⟨rfl, rfl, fun _ _ _ _ _ isRecv => nomatch isRecv⟩)

section Log

variable {message other : MessagePointer} {position index : Nat} {remove : Bool}
  {log : List Event}

@[simp]
theorem receipts_probed : receipts position (.probed message remove :: log) =
    receipts position log := by
  simp [receipts]

theorem receipts_received_self :
    receipts position (.received position message :: log) = receipts position log + 1 := by
  simp [receipts]

theorem receipts_received_of_ne (differs : index ≠ position) :
    receipts position (.received index message :: log) = receipts position log := by
  simp [receipts, differs]

theorem owned_probed_of_owned (isOwned : owned message log = true) :
    owned message (.probed other remove :: log) = true := by
  simp [owned, isOwned]

theorem owned_received_of_ne (differs : other ≠ message) :
    owned message (.received position other :: log) = owned message log := by
  simp [owned, differs]

end Log

/-- The handle at a position holds a message that was removed and not yet
received. -/
structure Holds (world : World) (position : Nat) (handle : MessageHandle) : Prop where
  found : world.handles[position]? = some handle
  removed : handle.removed = true
  unreceived : receipts position world.log = 0

variable {world next : World} {position : Nat} {handle : MessageHandle}

theorem onlyRemoved_of_probed (onlyRemoved : OnlyRemoved world)
    (probed : Probed world handle next) : OnlyRemoved next := by
  intro index message member
  rw [probed.log, List.mem_cons] at member
  obtain ⟨other, found, same, removed⟩ := onlyRemoved index message (member.resolve_left nofun)
  refine ⟨other, ?_, same, removed⟩
  rw [probed.handles, List.getElem?_append_left (List.getElem?_eq_some_iff.mp found).1]
  exact found

theorem onlyRemoved_of_received (onlyRemoved : OnlyRemoved world)
    (received : Received world position handle next) : OnlyRemoved next := by
  intro index message member
  rw [received.log, List.mem_cons] at member
  rw [received.handles]
  rcases member with now | before
  · cases now
    exact ⟨handle, received.found, rfl, received.removed⟩
  · exact onlyRemoved index message before

theorem onlyRemoved_step {label : Label} (onlyRemoved : OnlyRemoved world)
    (stepEq : step world label = some next) : OnlyRemoved next := by
  rcases step_cases stepEq with
    ⟨handle, probed, _⟩ | ⟨position, handle, received, _⟩ | ⟨handles, log, _⟩
  · exact onlyRemoved_of_probed onlyRemoved probed
  · exact onlyRemoved_of_received onlyRemoved received
  · unfold OnlyRemoved
    rw [handles, log]
    exact onlyRemoved

/-- Each handle that holds a message owns it, and no two hold the same one. -/
structure Consistent (world : World) : Prop extends ReceivedOnce world where
  owns : ∀ position handle, Holds world position handle →
    owned handle.handle world.log = true
  alone : ∀ first second firstHandle secondHandle, Holds world first firstHandle →
    Holds world second secondHandle → firstHandle.handle = secondHandle.handle →
      first = second

theorem consistent_initial : Consistent .initial where
  once _ := Nat.zero_le 1
  removed _ _ member := absurd member List.not_mem_nil
  live later position message earlier split := by
    cases later <;> cases split
  owns _ _ holds := nomatch holds.found
  alone _ _ _ _ holds := nomatch holds.found

/-- What UCX sees decides. -/
theorem consistent_of_same (consistent : Consistent world)
    (handles : next.handles = world.handles) (log : next.log = world.log) :
    Consistent next := by
  obtain ⟨⟨once, removed, live⟩, owns, alone⟩ := consistent
  have holds : ∀ position handle, Holds next position handle → Holds world position handle :=
    fun position handle holds =>
      ⟨handles ▸ holds.found, holds.removed, log ▸ holds.unreceived⟩
  have sameRemoved : OnlyRemoved next := by
    unfold OnlyRemoved
    rw [handles, log]
    exact removed
  refine ⟨⟨log ▸ once, sameRemoved, log ▸ live⟩, fun position handle holding => ?_,
    fun first second firstHandle secondHandle holdsFirst holdsSecond => ?_⟩
  · rw [log]
    exact owns position handle (holds _ _ holding)
  · exact alone _ _ _ _ (holds _ _ holdsFirst) (holds _ _ holdsSecond)

/-- A handle that holds a message after a probe held it before or is the new one. -/
theorem Probed.holds {other : MessageHandle} (probed : Probed world handle next)
    (holds : Holds next position other) :
    Holds world position other ∨ (position = world.handles.length ∧ other = handle) := by
  have found := holds.found
  have unreceived := holds.unreceived
  rw [probed.handles] at found
  rw [probed.log, receipts_probed] at unreceived
  rcases Nat.lt_or_ge position world.handles.length with old | past
  · rw [List.getElem?_append_left old] at found
    exact Or.inl ⟨found, holds.removed, unreceived⟩
  · have last : position = world.handles.length := by
      have bound := (List.getElem?_eq_some_iff.mp found).1
      rw [List.length_append, List.length_singleton] at bound
      omega
    rw [last, List.getElem?_append_right (Nat.le_refl _), Nat.sub_self] at found
    exact Or.inr ⟨last, (Option.some.inj found).symm⟩

theorem consistent_of_probed (consistent : Consistent world)
    (probed : Probed world handle next) : Consistent next := by
  -- a message that UCX hands out is held by no handle yet
  have fresh : ∀ index other, Holds world index other → handle.removed = true →
      other.handle ≠ handle.handle := by
    intro index other holds removed same
    have isOwned := consistent.owns index other holds
    rw [same, probed.fresh removed] at isOwned
    cases isOwned
  constructor
  case toReceivedOnce =>
    constructor
    case once =>
      intro index
      rw [probed.log, receipts_probed]
      exact consistent.once index
    case removed => exact onlyRemoved_of_probed consistent.removed probed
    case live =>
      intro later index message earlier split
      rw [probed.log] at split
      cases later with
      | nil => cases split
      | cons event later =>
          exact consistent.live later index message earlier (List.cons.inj split).2
  case owns =>
    intro index other holds
    rw [probed.log]
    rcases probed.holds holds with old | ⟨_, rfl⟩
    · exact owned_probed_of_owned (consistent.owns index other old)
    · simp [owned, holds.removed]
  case alone =>
    intro first second firstHandle secondHandle holdsFirst holdsSecond same
    rcases probed.holds holdsFirst with oldFirst | ⟨firstLast, rfl⟩
    · rcases probed.holds holdsSecond with oldSecond | ⟨_, rfl⟩
      · exact consistent.alone _ _ _ _ oldFirst oldSecond same
      · exact absurd same (fresh _ _ oldFirst holdsSecond.removed)
    · rcases probed.holds holdsSecond with oldSecond | ⟨secondLast, _⟩
      · exact absurd same.symm (fresh _ _ oldSecond holdsFirst.removed)
      · exact firstLast.trans secondLast.symm

/-- A handle that holds a message after a receive is another one. -/
theorem Received.holds {index : Nat} {other : MessageHandle}
    (received : Received world position handle next) (holds : Holds next index other) :
    Holds world index other ∧ index ≠ position := by
  have unreceived := holds.unreceived
  rw [received.log] at unreceived
  have differs : index ≠ position := by
    rintro rfl
    rw [receipts_received_self] at unreceived
    cases unreceived
  rw [receipts_received_of_ne differs.symm] at unreceived
  exact ⟨⟨received.handles ▸ holds.found, holds.removed, unreceived⟩, differs⟩

/-- The receive of a message that its handle still holds. -/
theorem consistent_of_received (consistent : Consistent world)
    (received : Received world position handle next)
    (unreceived : receipts position world.log = 0) : Consistent next := by
  have holding : Holds world position handle := ⟨received.found, received.removed, unreceived⟩
  constructor
  case toReceivedOnce =>
    constructor
    case once =>
      intro index
      rw [received.log]
      by_cases same : position = index
      · rw [← same, receipts_received_self, unreceived]
      · rw [receipts_received_of_ne same]
        exact consistent.once index
    case removed => exact onlyRemoved_of_received consistent.removed received
    case live =>
      intro later index message earlier split
      rw [received.log] at split
      cases later with
      | nil =>
          cases split
          exact consistent.owns position handle holding
      | cons event later =>
          exact consistent.live later index message earlier (List.cons.inj split).2
  case owns =>
    intro index other holds
    obtain ⟨old, differs⟩ := received.holds holds
    have otherMessage : handle.handle ≠ other.handle := fun same =>
      differs (consistent.alone _ _ _ _ old holding same.symm)
    rw [received.log, owned_received_of_ne otherMessage]
    exact consistent.owns index other old
  case alone =>
    intro first second firstHandle secondHandle holdsFirst holdsSecond same
    exact consistent.alone _ _ _ _ (received.holds holdsFirst).1 (received.holds holdsSecond).1
      same

/-- A step keeps the law exactly if it receives no message again. -/
theorem receivedOnce_step_iff {label : Label} (consistent : Consistent world)
    (stepEq : step world label = some next) :
    ReceivedOnce next ↔ Unreceived world label next := by
  rcases step_cases stepEq with
    ⟨handle, probed, unreceived⟩ | ⟨position, handle, received, unreceivedIff⟩ |
      ⟨handles, log, unreceived⟩
  · exact iff_of_true (consistent_of_probed consistent probed).toReceivedOnce unreceived
  · rw [unreceivedIff]
    constructor
    · intro receivedOnce
      have once := receivedOnce.once position
      rw [received.log, receipts_received_self] at once
      omega
    · exact fun none => (consistent_of_received consistent received none).toReceivedOnce
  · exact iff_of_true (consistent_of_same consistent handles log).toReceivedOnce unreceived

theorem consistent_step {label : Label} (consistent : Consistent world)
    (unreceived : Unreceived world label next) (stepEq : step world label = some next) :
    Consistent next := by
  rcases step_cases stepEq with
    ⟨handle, probed, _⟩ | ⟨position, handle, received, unreceivedIff⟩ | ⟨handles, log, _⟩
  · exact consistent_of_probed consistent probed
  · exact consistent_of_received consistent received (unreceivedIff.mp unreceived)
  · exact consistent_of_same consistent handles log

/-- In every run UCX receives only removed messages, and it receives each of them at
most once exactly if no handle of a removed message is received a second time. -/
theorem received_once_iff (run : List Label) :
    (EveryStep step (fun _ _ next => ReceivedOnce next) .initial run ↔
      EveryStep step Unreceived .initial run) ∧
    EveryStep step (fun _ _ next => OnlyRemoved next) .initial run := by
  constructor
  · refine (@everyStep_congr_of_guarded_invariant World Label step Consistent Unreceived
      (fun _ _ next => ReceivedOnce next) ?_ ?_ _ consistent_initial run).symm
    · exact fun consistent unreceived stepEq => consistent_step consistent unreceived stepEq
    · exact fun consistent stepEq => (receivedOnce_step_iff consistent stepEq).symm
  · exact everyStep_of_invariant (fun onlyRemoved stepEq => onlyRemoved_step onlyRemoved stepEq)
      (fun onlyRemoved => onlyRemoved) consistent_initial.removed run

/-- A message that its probe removed. -/
def probeRemoved : Label :=
  .probe ⟨⟨0x1000⟩, ⟨0⟩⟩ 7 7 true ⟨0x2000⟩ .zeroed

/-- A receive on the first handle, left pending by UCX. -/
def recvFirst : Label :=
  .recv ⟨⟨0x1000⟩, ⟨0⟩⟩ ⟨0x3000, 8⟩ 0 RequestParamBuilder.new.build 0x4000

/-- The handle is still in scope after its message was received. -/
theorem second_receive_breaks :
    ¬ EveryStep step (fun _ _ next => ReceivedOnce next) .initial
      [probeRemoved, recvFirst, recvFirst] := by
  intro everyStep
  obtain ⟨_, afterProbe⟩ := everyStep _ rfl
  obtain ⟨_, afterFirst⟩ := afterProbe _ rfl
  obtain ⟨again, _⟩ := afterFirst _ rfl
  exact absurd (again.once 0) (by decide)

end ProbedMessages

end UcxRs
