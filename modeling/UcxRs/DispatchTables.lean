import UcxRs.TransitionRuns
import Mathlib.Data.List.Induction
import Mathlib.Logic.Function.Basic

/-!
# Tables of installed behaviours

A dispatch table sends the messages for a key to the behaviour that was installed for it
last.  Every installation has a state of its own, which the messages that it is given
change.  An installation that was replaced keeps its state, since messages may still be on
their way to it.

A table is what a list of events leaves behind, and both of its parts can be read off that
list: the current installation of a key is decided by the last event about the key, and
the state of an installation is that of its behaviour after its own messages.
-/

namespace DispatchTables

variable {Key Message Behaviour State : Type}

structure Installation (Behaviour State : Type) where
  behaviour : Behaviour
  state : State

/-- What happens to a table.  Installations are numbered, and messages are given to
numbers. -/
inductive Event (Key Message Behaviour State : Type) where
  | install (key : Key) (number : Nat) (installation : Installation Behaviour State)
  | remove (key : Key)
  | deliver (number : Nat) (message : Message)
  | close

structure Table (Key Behaviour State : Type) where
  current : Key → Option Nat
  installations : Nat → Option (Installation Behaviour State)

def Table.empty : Table Key Behaviour State where
  current := fun _ => none
  installations := fun _ => none

/-- What an event says about the current installation of a key. -/
def decides [DecidableEq Key] (key : Key) :
    Event Key Message Behaviour State → Option (Option Nat)
  | .install other number _ => if other = key then some (some number) else none
  | .remove other => if other = key then some none else none
  | .deliver _ _ => none
  | .close => some none

/-- The installation that the last event about the key left. -/
def lastFor [DecidableEq Key] (key : Key) (events : List (Event Key Message Behaviour State)) :
    Option Nat :=
  (events.reverse.findSome? (decides key)).getD none

def messagesTo (number : Nat) (events : List (Event Key Message Behaviour State)) :
    List Message :=
  events.filterMap fun event =>
    match event with
    | .deliver other message => if other = number then some message else none
    | _ => none

def installedNumbers (events : List (Event Key Message Behaviour State)) : List Nat :=
  events.filterMap fun event =>
    match event with
    | .install _ number _ => some number
    | _ => none

/-- The event leaves this installation in the table. -/
def Spares (number : Nat) : Event Key Message Behaviour State → Prop
  | .install _ other _ => other ≠ number
  | .close => False
  | _ => True

/-- An installation that was made once, in a table that was not closed. -/
theorem spares_of_once {before after : List (Event Key Message Behaviour State)} {key : Key}
    {number : Nat} {installation : Installation Behaviour State}
    (once : (installedNumbers (before ++ .install key number installation :: after)).Nodup)
    (open_ : .close ∉ after) : ∀ event ∈ after, Spares number event := by
  intro event member
  cases event with
  | install other second new =>
      intro same
      subst same
      have split : installedNumbers (before ++ .install key second installation :: after) =
          installedNumbers before ++ second :: installedNumbers after :=
        List.filterMap_append
      rw [split] at once
      have fresh := (List.nodup_cons.mp (List.nodup_append.mp once).2.1).1
      exact fresh (List.mem_filterMap.mpr ⟨_, member, rfl⟩)
  | remove other => trivial
  | deliver other message => trivial
  | close => exact absurd member open_

section Replay

variable (react : Behaviour → Message → State → State)

/-- An installation after messages. -/
def Installation.after (installation : Installation Behaviour State)
    (messages : List Message) : Installation Behaviour State :=
  { installation with
    state := messages.foldl (fun state message => react installation.behaviour message state)
      installation.state }

variable [DecidableEq Key]

def Table.apply (table : Table Key Behaviour State) :
    Event Key Message Behaviour State → Table Key Behaviour State
  | .install key number installation =>
      { current := Function.update table.current key (some number)
        installations := Function.update table.installations number (some installation) }
  | .remove key => { table with current := Function.update table.current key none }
  | .deliver number message =>
      { table with
        installations := Function.update table.installations number
          ((table.installations number).map fun installation =>
            installation.after react [message]) }
  | .close => .empty

def replay (events : List (Event Key Message Behaviour State)) : Table Key Behaviour State :=
  events.foldl (Table.apply react) .empty

theorem replay_append (first second : List (Event Key Message Behaviour State)) :
    replay react (first ++ second) = second.foldl (Table.apply react) (replay react first) :=
  List.foldl_append

variable {react}

theorem current_apply (table : Table Key Behaviour State)
    (event : Event Key Message Behaviour State) (key : Key) :
    (table.apply react event).current key = (decides key event).getD (table.current key) := by
  cases event with
  | install other number installation =>
      by_cases same : other = key
      · subst same
        simp [Table.apply, decides]
      · simp [Table.apply, decides, same, Function.update_of_ne (Ne.symm same)]
  | remove other =>
      by_cases same : other = key
      · subst same
        simp [Table.apply, decides]
      · simp [Table.apply, decides, same, Function.update_of_ne (Ne.symm same)]
  | deliver number message => rfl
  | close => rfl

theorem current_replay (events : List (Event Key Message Behaviour State)) (key : Key) :
    (replay react events).current key = lastFor key events := by
  induction events using List.reverseRecOn with
  | nil => rfl
  | append_singleton events event ih =>
      rw [replay_append, List.foldl_cons, List.foldl_nil, current_apply, ih]
      unfold lastFor
      rw [List.reverse_append, List.reverse_singleton, List.singleton_append,
        List.findSome?_cons]
      cases decides key event <;> rfl

theorem after_append (installation : Installation Behaviour State)
    (first second : List Message) :
    (installation.after react first).after react second =
      installation.after react (first ++ second) := by
  unfold Installation.after
  rw [List.foldl_append]

theorem installations_apply {table : Table Key Behaviour State} {number : Nat}
    {installation : Installation Behaviour State}
    (found : table.installations number = some installation)
    {event : Event Key Message Behaviour State} (spares : Spares number event) :
    (table.apply react event).installations number =
      some (installation.after react (messagesTo number [event])) := by
  cases event with
  | install key other new => exact (Function.update_of_ne (Ne.symm spares) _ _).trans found
  | remove key => exact found
  | close => exact spares.elim
  | deliver other message =>
      by_cases same : other = number
      · subst same
        simp [Table.apply, messagesTo, found]
      · have none : messagesTo number
            [(.deliver other message : Event Key Message Behaviour State)] = [] := by
          simp [messagesTo, same]
        rw [none]
        exact (Function.update_of_ne (Ne.symm same) _ _).trans found

theorem installations_foldl {table : Table Key Behaviour State} {number : Nat}
    {installation : Installation Behaviour State}
    (found : table.installations number = some installation)
    {events : List (Event Key Message Behaviour State)}
    (spares : ∀ event ∈ events, Spares number event) :
    (events.foldl (Table.apply react) table).installations number =
      some (installation.after react (messagesTo number events)) := by
  induction events generalizing table installation with
  | nil => exact found
  | cons event events ih =>
      have first : (table.apply react event).installations number = _ :=
        installations_apply found (spares event List.mem_cons_self)
      have rest := ih first fun later member => spares later (List.mem_cons_of_mem _ member)
      have split : messagesTo number (event :: events) =
          messagesTo number [event] ++ messagesTo number events := by
        rw [← List.singleton_append]
        exact List.filterMap_append
      rw [List.foldl_cons, rest, after_append, split]

theorem installation_replay {before after : List (Event Key Message Behaviour State)}
    {key : Key} {number : Nat} {installation : Installation Behaviour State}
    (once : (installedNumbers (before ++ .install key number installation :: after)).Nodup)
    (open_ : .close ∉ after) :
    (replay react (before ++ .install key number installation :: after)).installations number =
      some (installation.after react (messagesTo number after)) := by
  rw [replay_append, List.foldl_cons]
  exact installations_foldl (Function.update_self ..) (spares_of_once once open_)

end Replay

end DispatchTables
