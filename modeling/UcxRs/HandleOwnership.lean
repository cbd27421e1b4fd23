import UcxRs.InteractionProgram
import UcxRs.TransitionRuns

/-!
# Ownership of the handles of a foreign library

A foreign library hands out handles as answers to some calls and takes them
back with others.  A component of values that each hold at most one handle uses
them linearly when every call that names a handle is made by its holder.  The
library proves what follows for any number of values, whose methods run as
programs that interleave call by call: a handle has at most one holder, no call
names it between its release and its next grant, and a value without a handle
makes no further calls.

The component has to show one thing about each method, `Respects`: by itself,
whatever the answers, the method names only the handle it holds.
-/

namespace HandleOwnership

open Interaction (Program)
open Interaction.Program (done issue forRounds)
open TransitionRuns

/-- How the calls of a foreign library use its handles.  A handle is tracked
when the library vouches for it; an untracked one may be any word. -/
structure Protocol (Call : Type) (Answer : Call → Type) (Handle : Type) where
  names : Call → Option Handle
  releases : Call → Option Handle
  grants : (call : Call) → Answer call → Option Handle
  tracked : Handle → Bool
  names_of_releases : ∀ {call handle}, releases call = some handle →
    names call = some handle
  grants_of_releases : ∀ {call handle}, releases call = some handle →
    ∀ answer, grants call answer = none

section Programs

variable {Call : Type} {Answer : Call → Type} {Handle Result Value : Type}
  [DecidableEq Handle] (protocol : Protocol Call Answer Handle)

/-- The handle that a program holds after a call. -/
def Protocol.heldAfter (held : Option Handle) (call : Call) (answer : Answer call) :
    Option Handle :=
  match protocol.grants call answer with
  | some handle => some handle
  | none => if protocol.releases call = held then none else held

/-- What a call may do in a method of a value: the value holds a handle, and
the call grants none. -/
def Protocol.Operates (call : Call) (held : Option Handle) : Prop :=
  held ≠ none ∧ ∀ answer, protocol.grants call answer = none

/-- A program that holds a handle, or none, names no other, makes only admitted
calls and ends with a result that meets a postcondition. -/
def Protocol.Respects (admits : Call → Option Handle → Prop)
    (ensures : Result → Option Handle → Prop) :
    Program Call Answer Result → Option Handle → Prop
  | .done result, held => ensures result held
  | .issue call resume, held =>
      admits call held ∧
      (∀ handle, protocol.names call = some handle → held = some handle) ∧
      ∀ answer, Protocol.Respects admits ensures (resume answer)
        (protocol.heldAfter held call answer)

variable {protocol} {admits : Call → Option Handle → Prop}
  {ensures : Result → Option Handle → Prop} {held : Option Handle}

theorem Protocol.heldAfter_none (call : Call) (answer : Answer call) :
    protocol.heldAfter none call answer = protocol.grants call answer := by
  unfold Protocol.heldAfter
  cases protocol.grants call answer with
  | some handle => rfl
  | none => exact ite_self none

/-- Sequential composition: the second program starts with what the first one
left. -/
theorem Protocol.Respects.bind {program : Program Call Answer Value}
    {next : Value → Program Call Answer Result}
    (first : protocol.Respects admits
      (fun value held => protocol.Respects admits ensures (next value) held) program held) :
    protocol.Respects admits ensures (program >>= next) held := by
  induction program generalizing held with
  | done value => exact first
  | issue call resume ih =>
      obtain ⟨admitted, named, rest⟩ := first
      exact ⟨admitted, named, fun answer => ih answer (rest answer)⟩

/-- Weaken what calls are admitted and what the result ensures. -/
theorem Protocol.Respects.mono {looser : Call → Option Handle → Prop}
    {weaker : Result → Option Handle → Prop} {program : Program Call Answer Result}
    (respects : protocol.Respects admits ensures program held)
    (loosen : ∀ call held, admits call held → looser call held)
    (weaken : ∀ result held, ensures result held → weaker result held) :
    protocol.Respects looser weaker program held := by
  induction program generalizing held with
  | done result => exact weaken result held respects
  | issue call resume ih =>
      obtain ⟨admitted, named, rest⟩ := respects
      exact ⟨loosen call held admitted, named, fun answer => ih answer (rest answer)⟩

theorem Protocol.Respects.map {program : Program Call Answer Value}
    {function : Value → Result}
    (respects : protocol.Respects admits (fun value held => ensures (function value) held)
      program held) :
    protocol.Respects admits ensures (function <$> program) held := by
  rw [map_eq_pure_bind]
  exact Protocol.Respects.bind respects

/-- A call that neither grants nor releases a handle. -/
theorem Protocol.Respects.query {call : Call}
    {resume : Answer call → Program Call Answer Result} (admitted : admits call held)
    (named : ∀ handle, protocol.names call = some handle → held = some handle)
    (kept : protocol.releases call = none)
    (grantless : ∀ answer, protocol.grants call answer = none)
    (rest : ∀ answer, protocol.Respects admits ensures (resume answer) held) :
    protocol.Respects admits ensures (.issue call resume) held := by
  refine ⟨admitted, named, fun answer => ?_⟩
  have same : protocol.heldAfter held call answer = held := by
    unfold Protocol.heldAfter
    rw [grantless answer, kept]
    cases held <;> rfl
  rw [same]
  exact rest answer

/-- A call that releases the handle the program holds. -/
theorem Protocol.Respects.release {call : Call} {handle : Handle}
    {resume : Answer call → Program Call Answer Result}
    (admitted : admits call (some handle)) (released : protocol.releases call = some handle)
    (rest : ∀ answer, protocol.Respects admits ensures (resume answer) none) :
    protocol.Respects admits ensures (.issue call resume) (some handle) := by
  refine ⟨admitted, fun other named => ?_, fun answer => ?_⟩
  · exact (protocol.names_of_releases released).symm.trans named
  · have gone : protocol.heldAfter (some handle) call answer = none := by
      unfold Protocol.heldAfter
      rw [protocol.grants_of_releases released answer]
      exact if_pos released
    rw [gone]
    exact rest answer

/-- What a round of a loop ensures: a result that meets the postcondition, or
to go on with what the round started with. -/
def roundEnsures (ensures : Result → Option Handle → Prop) (held : Option Handle) :
    Option Result → Option Handle → Prop
  | some result, later => ensures result later
  | none, later => later = held

theorem Protocol.Respects.forRounds {body : Program Call Answer (Option Result)}
    {after : Program Call Answer Result}
    (round : protocol.Respects admits (roundEnsures ensures held) body held)
    (last : protocol.Respects admits ensures after held) (rounds : Nat) :
    protocol.Respects admits ensures (forRounds body after rounds) held := by
  induction rounds with
  | zero => exact last
  | succ rounds ih =>
      refine Protocol.Respects.bind
        (round.mono (fun _ _ admitted => admitted) fun outcome later ensured => ?_)
      cases outcome with
      | some result => exact ensured
      | none =>
          cases ensured
          exact ih

end Programs

/-- What a method leaves behind: the value goes on, another value takes its
handle over, or nothing is left. -/
inductive Outcome (Resident : Type) where
  | keeps (resident : Resident)
  | moves (resident : Resident)
  | ends

def Outcome.resident {Resident : Type} : Outcome Resident → Option Resident
  | keeps resident => some resident
  | moves resident => some resident
  | ends => none

/-- Values that hold at most one handle each, the postings that create them and
the methods they offer, with the proof that each respects the protocol. -/
structure Component (Call : Type) (Answer : Call → Type) (Handle Resident : Type)
    (Posting Operation : Type) [DecidableEq Handle]
    extends Protocol Call Answer Handle where
  handle : Resident → Option Handle
  post : Posting → Program Call Answer (Outcome Resident)
  operate : Operation → Resident → Option (Program Call Answer (Outcome Resident))
  post_respects : ∀ posting, toProtocol.Respects (fun _ _ => True)
    (fun outcome held => ∀ resident owned, outcome.resident = some resident →
      handle resident = some owned → held = some owned) (post posting) none
  operate_respects : ∀ {operation resident program},
    operate operation resident = some program →
    toProtocol.Respects toProtocol.Operates
      (fun outcome held => ∀ resident owned, outcome.resident = some resident →
        handle resident = some owned → held = some owned) program (handle resident)

variable {Call : Type} {Answer : Call → Type} {Handle Resident Posting Operation : Type}

/-- A place for one value over its life. -/
inductive Slot (Call : Type) (Answer : Call → Type) (Handle Resident : Type) where
  | unused
  | idle (resident : Resident)
  | running (posting : Bool) (held : Option Handle)
      (program : Program Call Answer (Outcome Resident))
  | consumed

/-- A call that came back, with the slot that made it and its answer. -/
structure Entry (Call : Type) (Answer : Call → Type) where
  slot : Nat
  posting : Bool
  call : Call
  answer : Answer call

/-- The slots, and the calls that came back, newest first. -/
structure World (Call : Type) (Answer : Call → Type) (Handle Resident : Type) where
  slots : Nat → Slot Call Answer Handle Resident
  log : List (Entry Call Answer)

def World.initial : World Call Answer Handle Resident where
  slots := fun _ => .unused
  log := []

inductive Label (Call : Type) (Answer : Call → Type) (Posting Operation : Type) where
  | post (slot : Nat) (posting : Posting)
  | operate (slot : Nat) (operation : Operation)
  | answer (slot : Nat) (oracle : (call : Call) → Option (Answer call))
  | finish (slot target : Nat)

namespace World

def setSlot (world : World Call Answer Handle Resident) (index : Nat)
    (slot : Slot Call Answer Handle Resident) : World Call Answer Handle Resident :=
  { world with slots := Function.update world.slots index slot }

end World

section Steps

variable [DecidableEq Handle]
  (component : Component Call Answer Handle Resident Posting Operation)

def Component.granted (entry : Entry Call Answer) : Option Handle :=
  component.grants entry.call entry.answer

/-- The library has handed out a handle and not taken it back since. -/
def Component.isLive (handle : Handle) : List (Entry Call Answer) → Bool
  | [] => false
  | entry :: older =>
      if component.granted entry = some handle then true
      else if component.releases entry.call = some handle then false
      else Component.isLive handle older

/-- A tracked handle is granted only while it is not handed out.  UCX could hand out a
handle that is still out, such as one dummy handle for every empty region; such runs are
left out. -/
def Component.mayGrant (log : List (Entry Call Answer)) (granted : Option Handle) : Bool :=
  match granted with
  | none => true
  | some handle => !(component.tracked handle && component.isLive handle log)

def Component.step (world : World Call Answer Handle Resident) :
    Label Call Answer Posting Operation → Option (World Call Answer Handle Resident)
  | .post index posting =>
      match world.slots index with
      | .unused => some (world.setSlot index (.running true none (component.post posting)))
      | _ => none
  | .operate index operation =>
      match world.slots index with
      | .idle resident =>
          (component.operate operation resident).map fun program =>
            world.setSlot index (.running false (component.handle resident) program)
      | _ => none
  | .answer index oracle =>
      match world.slots index with
      | .running posting held (.issue call resume) =>
          (oracle call).bind fun answer =>
            if component.mayGrant world.log (component.grants call answer) then
              some {
                slots := Function.update world.slots index
                  (.running posting (component.heldAfter held call answer) (resume answer))
                log := ⟨index, posting, call, answer⟩ :: world.log }
            else none
      | _ => none
  | .finish index target =>
      match world.slots index with
      | .running _ _ (.done (.keeps resident)) =>
          some (world.setSlot index (.idle resident))
      | .running _ _ (.done (.moves resident)) =>
          match world.slots target with
          | .unused => some ((world.setSlot index .consumed).setSlot target (.idle resident))
          | _ => none
      | .running _ _ (.done .ends) => some (world.setSlot index .consumed)
      | _ => none

end Steps

end HandleOwnership
