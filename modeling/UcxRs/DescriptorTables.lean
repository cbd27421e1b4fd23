import UcxRs.InteractionProgram
import UcxRs.TransitionRuns
import Mathlib.Logic.Function.Basic

/-!
# Descriptors and streams of a process

The threads of a process share one descriptor table.  `dup` gives the open file of a
descriptor a second number, `fdopen` wraps a descriptor in a stream, and `fclose` ends
the stream and its descriptor together.  The numbers of closed descriptors are given out
again, so whoever closes a descriptor twice, or not his own, closes somebody else's file.

A ledger says who holds which descriptor, and tidy code is typed by what it holds.  In
every interleaving of tidy threads with a process that opens and closes descriptors of
its own, the table is what the ledger says.
-/

namespace DescriptorTables

open Interaction (Program)
open TransitionRuns

variable {File Use Task : Type}

/-- The calls of the C library, and the use of a stream by somebody who writes to it. -/
inductive Call (Use : Type) where
  | dup (fd : Int)
  | fdopen (fd : Int)
  | close (fd : Int)
  | fclose (stream : Nat)
  | use (stream : Nat) (what : Use)

/-- `dup` answers a descriptor or a negative number, `fdopen` a stream or null. -/
abbrev Answer : Call Use → Type
  | .dup _ => Int
  | .fdopen _ => Nat
  | .close _ => Int
  | .fclose _ => Int
  | .use _ _ => Unit

/-- Code of a thread. -/
abbrev Code (Use : Type) := Program (Call Use) Answer Unit

/-- The open files by descriptor, and the descriptor of every stream. -/
structure Table (File : Type) where
  files : Int → Option File
  streams : Nat → Option Int

/-- The table after a call, unless the system does not answer like that. -/
def Table.serve (table : Table File) :
    (call : Call Use) → Answer call → Option (Table File)
  | .dup fd, answer =>
      if answer < 0 then some table
      else if table.files answer = none then
        (table.files fd).map fun file =>
          { table with files := Function.update table.files answer (some file) }
      else none
  | .fdopen fd, stream =>
      if stream = 0 then some table
      else if (table.files fd).isSome ∧ table.streams stream = none then
        some { table with streams := Function.update table.streams stream (some fd) }
      else none
  | .close fd, _ => some { table with files := Function.update table.files fd none }
  | .fclose stream, _ =>
      -- without an open stream the behaviour is undefined
      (table.streams stream).map fun fd =>
        { files := Function.update table.files fd none
          streams := Function.update table.streams stream none }
  | .use _ _, _ => some table

/-- Who opened a descriptor. -/
inductive Holder where
  | process
  | thread (thread : Nat)
  deriving DecidableEq, Repr

/-- An open descriptor: its holder, its file and the stream that wraps it. -/
structure Loan (File : Type) where
  holder : Holder
  file : File
  stream : Option Nat

/-- The open descriptors. -/
abbrev Ledger (File : Type) := Int → Option (Loan File)

/-- The ledger after a call of a thread. -/
def Ledger.record (thread : Nat) (table : Table File) (ledger : Ledger File) :
    (call : Call Use) → Answer call → Ledger File
  | .dup fd, answer =>
      if answer < 0 then ledger
      else Function.update ledger answer
        ((table.files fd).map fun file => ⟨.thread thread, file, none⟩)
  | .fdopen fd, stream =>
      if stream = 0 then ledger
      else Function.update ledger fd
        ((ledger fd).map fun loan => { loan with stream := some stream })
  | .close fd, _ => Function.update ledger fd none
  | .fclose stream, _ =>
      match table.streams stream with
      | some fd => Function.update ledger fd none
      | none => ledger
  | .use _ _, _ => ledger

/-- The file behind the descriptor that a thread's task names, when the thread last
duplicated one. -/
def sourceAfter (named : Int) (table : Table File) (source : Option File) :
    (call : Call Use) → Answer call → Option File
  | .dup _, answer => if answer < 0 then source else table.files named
  | _, _ => source

/-- A thread in a task. -/
structure Thread (File Use Task : Type) where
  task : Task
  rest : Code Use
  source : Option File

structure World (File Use Task : Type) where
  table : Table File
  ledger : Ledger File
  threads : Nat → Option (Thread File Use Task)

/-- A thread starts a task, makes its next call or finishes; the process opens a
descriptor, wrapped in a stream or not, or closes one of its own. -/
inductive Label (File Use Task : Type) where
  | start (thread : Nat) (task : Task)
  | call (thread : Nat) (answers : (call : Call Use) → Answer call)
  | finish (thread : Nat)
  | opened (fd : Int) (file : File) (stream : Option Nat)
  | closed (fd : Int)

/-- Nothing is open and no thread is in a task. -/
def World.initial : World File Use Task where
  table := ⟨fun _ => none, fun _ => none⟩
  ledger := fun _ => none
  threads := fun _ => none

/-- Open or close the stream of a descriptor. -/
def setStream (streams : Nat → Option Int) (stream : Option Nat) (fd : Option Int) :
    Nat → Option Int :=
  match stream with
  | some stream => Function.update streams stream fd
  | none => streams

/-- One step; each task names a descriptor. -/
def step (names : Task → Int) (body : Task → Code Use) (world : World File Use Task) :
    Label File Use Task → Option (World File Use Task)
  | .start thread task =>
      match world.threads thread with
      | none =>
          some { world with
            threads := Function.update world.threads thread
              (some ⟨task, body task, none⟩) }
      | some _ => none
  | .call thread answers =>
      match world.threads thread with
      | some ⟨task, .issue request resume, source⟩ =>
          (world.table.serve request (answers request)).map fun table =>
            { table := table
              ledger := world.ledger.record thread world.table request (answers request)
              threads := Function.update world.threads thread
                (some ⟨task, resume (answers request),
                  sourceAfter (names task) world.table source request (answers request)⟩) }
      | _ => none
  | .finish thread =>
      match world.threads thread with
      | some ⟨_, .done _, _⟩ =>
          some { world with threads := Function.update world.threads thread none }
      | _ => none
  | .opened fd file stream =>
      if world.table.files fd = none ∧
          ∀ wrapper ∈ stream, world.table.streams wrapper = none then
        some { world with
          table :=
            { files := Function.update world.table.files fd (some file)
              streams := setStream world.table.streams stream (some fd) }
          ledger := Function.update world.ledger fd (some ⟨.process, file, stream⟩) }
      else none
  | .closed fd =>
      match world.ledger fd with
      | some ⟨.process, _, stream⟩ =>
          some { world with
            table :=
              { files := Function.update world.table.files fd none
                streams := setStream world.table.streams stream none }
            ledger := Function.update world.ledger fd none }
      | _ => none

/-- The file and the stream of a descriptor, to a thread that holds it. -/
def heldBy (thread : Nat) : Option (Loan File) → Option (File × Option Nat)
  | some ⟨.thread holder, file, stream⟩ =>
      if holder = thread then some (file, stream) else none
  | _ => none

/-- What a thread holds. -/
def Ledger.held (ledger : Ledger File) (thread : Nat) : Int → Option (File × Option Nat) :=
  fun fd => heldBy thread (ledger fd)

/-- Code that closes what it holds: it duplicates only the descriptor that it is told, wraps
and closes a bare descriptor of its own, uses and ends a stream of its own, uses it only
while it stands for the file that was duplicated last, and holds nothing when it is done. -/
def Tidy (named : Int) :
    Option File → (Int → Option (File × Option Nat)) → Code Use → Prop
  | _, held, .done _ => ∀ fd, held fd = none
  | source, held, .issue (.dup fd) resume =>
      fd = named ∧ (∀ answer : Int, answer < 0 → Tidy named source held (resume answer)) ∧
        ∀ (answer : Int) file, ¬ answer < 0 → held answer = none →
          Tidy named (some file) (Function.update held answer (some (file, none)))
            (resume answer)
  | source, held, .issue (.fdopen fd) resume =>
      ∃ file, held fd = some (file, none) ∧ Tidy named source held (resume (0 : Nat)) ∧
        ∀ stream : Nat, stream ≠ 0 →
          Tidy named source (Function.update held fd (some (file, some stream))) (resume stream)
  | source, held, .issue (.close fd) resume =>
      (∃ file, held fd = some (file, none)) ∧
        ∀ answer, Tidy named source (Function.update held fd none) (resume answer)
  | source, held, .issue (.fclose stream) resume =>
      ∃ fd file, held fd = some (file, some stream) ∧
        ∀ answer, Tidy named source (Function.update held fd none) (resume answer)
  | source, held, .issue (.use stream _) resume =>
      (∃ fd file, held fd = some (file, some stream) ∧ source = some file) ∧
        Tidy named source held (resume ())

/-- A thread that is in no task holds nothing. -/
def TidyThread (names : Task → Int) (held : Int → Option (File × Option Nat)) :
    Option (Thread File Use Task) → Prop
  | none => ∀ fd, held fd = none
  | some thread => Tidy (names thread.task) thread.source held thread.rest

section Ledgers

variable {ledger : Ledger File} {table : Table File} {thread : Nat} {fd : Int}
  {entry : Option (Loan File)}

/-- Nobody but the thread holds what is entered. -/
def Own (thread : Nat) (entry : Option (Loan File)) : Prop :=
  ∀ loan, entry = some loan → loan.holder = .thread thread

theorem own_none : Own thread (none : Option (Loan File)) := by
  intro loan found
  cases found

theorem own_some (file : File) (stream : Option Nat) :
    Own thread (some ⟨.thread thread, file, stream⟩) := by
  rintro loan ⟨⟩
  rfl

@[simp]
theorem heldBy_self (file : File) (stream : Option Nat) :
    heldBy thread (some ⟨.thread thread, file, stream⟩) = some (file, stream) :=
  if_pos rfl

theorem heldBy_eq_some {file : File} {stream : Option Nat}
    (held : heldBy thread entry = some (file, stream)) :
    entry = some ⟨.thread thread, file, stream⟩ := by
  rcases entry with _ | ⟨_ | holder, loaned, wrapper⟩
  · cases held
  · cases held
  · obtain ⟨rfl, same⟩ := Option.ite_none_right_eq_some.mp held
    cases same
    rfl

/-- The other threads do not hold what is a thread's own. -/
theorem Own.heldBy_other (own : Own thread entry) {other : Nat} (different : other ≠ thread) :
    heldBy other entry = none := by
  rcases entry with _ | ⟨_ | holder, file, stream⟩
  · rfl
  · rfl
  · have same : holder = thread := Holder.thread.inj (own _ rfl)
    exact if_neg fun isOther => different (isOther.symm.trans same)

theorem held_update (other : Nat) :
    Ledger.held (Function.update ledger fd entry) other =
      Function.update (ledger.held other) fd (heldBy other entry) :=
  Function.comp_update (heldBy other) ledger fd entry

theorem held_update_other {other : Nat} (different : other ≠ thread)
    (before : Own thread (ledger fd)) (after : Own thread entry) :
    Ledger.held (Function.update ledger fd entry) other = ledger.held other := by
  rw [held_update, after.heldBy_other different]
  have unheld : ledger.held other fd = none := before.heldBy_other different
  rw [← unheld, Function.update_eq_self]

/-- The table holds what the ledger says. -/
structure Represents (ledger : Ledger File) (table : Table File) : Prop where
  files : ∀ fd, table.files fd = (ledger fd).map Loan.file
  streams : ∀ stream fd, table.streams stream = some fd ↔
    ∃ loan, ledger fd = some loan ∧ loan.stream = some stream

theorem setStream_eq_some {streams : Nat → Option Int} {stream : Option Nat}
    {target : Option Int} {wrapper : Nat} {other : Int} :
    setStream streams stream target wrapper = some other ↔
      (stream = some wrapper ∧ target = some other) ∨
        (stream ≠ some wrapper ∧ streams wrapper = some other) := by
  cases stream with
  | none => simp [setStream]
  | some stream =>
      by_cases same : wrapper = stream
      · subst same
        simp [setStream]
      · have different : stream ≠ wrapper := fun equal => same equal.symm
        simp [setStream, Function.update_of_ne same, different]

theorem Represents.stream_eq_some (represents : Represents ledger table) {stream : Nat} :
    table.streams stream = some fd ↔ (ledger fd).bind Loan.stream = some stream := by
  rw [represents.streams, Option.bind_eq_some_iff]

/-- Replace what is entered for one descriptor, in the ledger and in the table. -/
theorem Represents.replace (represents : Represents ledger table) (fd : Int)
    (entry : Option (Loan File))
    (fresh : ∀ stream, entry.bind Loan.stream = some stream →
      table.streams stream = none) :
    Represents (Function.update ledger fd entry)
      { files := Function.update table.files fd (entry.map Loan.file)
        streams := setStream (setStream table.streams ((ledger fd).bind Loan.stream) none)
          (entry.bind Loan.stream) (some fd) } := by
  constructor
  · intro other
    by_cases same : other = fd
    · subst same
      simp
    · simp [Function.update_of_ne same, represents.files]
  · intro stream other
    rw [setStream_eq_some, setStream_eq_some, represents.stream_eq_some,
      ← Option.bind_eq_some_iff]
    by_cases same : other = fd
    · subst same
      rw [Function.update_self]
      constructor
      · rintro (⟨wraps, -⟩ | ⟨-, ⟨-, absent⟩ | ⟨notOld, old⟩⟩)
        · exact wraps
        · cases absent
        · exact absurd old notOld
      · intro wraps
        exact .inl ⟨wraps, rfl⟩
    · rw [Function.update_of_ne same]
      constructor
      · rintro (⟨-, moved⟩ | ⟨-, ⟨-, absent⟩ | ⟨-, kept⟩⟩)
        · exact absurd (Option.some.inj moved).symm same
        · cases absent
        · exact kept
      · intro wraps
        have open_ := represents.stream_eq_some.mpr wraps
        refine .inr ⟨fun new => ?_, .inr ⟨fun old => ?_, wraps⟩⟩
        · cases open_.symm.trans (fresh stream new)
        · have here := represents.stream_eq_some.mpr old
          exact same (Option.some.inj (open_.symm.trans here))

theorem Represents.entry_none (represents : Represents ledger table)
    (closed : table.files fd = none) : ledger fd = none := by
  rw [represents.files] at closed
  exact Option.map_eq_none_iff.mp closed

/-- What a call of a tidy thread does: nothing to the table, or it replaces an entry that
nobody but the thread holds. -/
inductive Effect (named : Int) (thread : Nat) (ledger : Ledger File) (table : Table File)
    (source : Option File) (rest : Code Use) :
    Ledger File → Table File → Option File → Prop where
  | unchanged (tidy : Tidy named source (ledger.held thread) rest) :
      Effect named thread ledger table source rest ledger table source
  | replaced {fd : Int} {entry : Option (Loan File)} {after : Table File}
      {sourceAfter : Option File} (ownBefore : Own thread (ledger fd))
      (ownAfter : Own thread entry)
      (represents : Represents (Function.update ledger fd entry) after)
      (tidy : Tidy named sourceAfter
        (Function.update (ledger.held thread) fd (heldBy thread entry)) rest) :
      Effect named thread ledger table source rest (Function.update ledger fd entry) after
        sourceAfter

variable {named : Int} {source : Option File} {after : Table File}

theorem effect_of_dup (represents : Represents ledger table) {answer : Int}
    {resume : Int → Code Use}
    (tidy : Tidy named source (ledger.held thread) (.issue (.dup fd) resume))
    (served : table.serve (.dup fd : Call Use) answer = some after) :
    Effect named thread ledger table source (resume answer)
      (ledger.record thread table (.dup fd : Call Use) answer) after
      (sourceAfter named table source (.dup fd : Call Use) answer) := by
  obtain ⟨rfl, failing, duplicating⟩ := tidy
  by_cases failed : answer < 0
  · have same : table = after := by simpa [Table.serve, failed] using served
    simp only [Ledger.record, sourceAfter, failed, if_true, ← same]
    exact .unchanged (failing answer failed)
  · obtain ⟨closed, file, found, rfl⟩ : table.files answer = none ∧ ∃ file,
        table.files fd = some file ∧
          { table with files := Function.update table.files answer (some file) } = after := by
      simpa [Table.serve, failed] using served
    have vacant := represents.entry_none closed
    have opened := represents.replace answer (some ⟨.thread thread, file, none⟩)
      (by rintro stream ⟨⟩)
    have unheld : ledger.held thread answer = none := by
      unfold Ledger.held
      rw [vacant]
      rfl
    simp only [Ledger.record, sourceAfter, failed, if_false, found, Option.map_some]
    refine .replaced (by rw [vacant]; exact own_none) (own_some file none) ?_ ?_
    · simpa [vacant, setStream] using opened
    · rw [heldBy_self]
      exact duplicating answer file failed unheld

theorem effect_of_fdopen (represents : Represents ledger table) {stream : Nat}
    {resume : Nat → Code Use}
    (tidy : Tidy named source (ledger.held thread) (.issue (.fdopen fd) resume))
    (served : table.serve (.fdopen fd : Call Use) stream = some after) :
    Effect named thread ledger table source (resume stream)
      (ledger.record thread table (.fdopen fd : Call Use) stream) after source := by
  obtain ⟨file, held, failing, wrapping⟩ := tidy
  have entered := heldBy_eq_some held
  by_cases failed : stream = 0
  · subst failed
    have same : table = after := by simpa [Table.serve] using served
    simp only [Ledger.record, if_true, ← same]
    exact .unchanged failing
  · obtain ⟨⟨-, fresh⟩, rfl⟩ : ((table.files fd).isSome ∧ table.streams stream = none) ∧
        { table with streams := Function.update table.streams stream (some fd) } = after := by
      simpa [Table.serve, failed] using served
    have wrapped := represents.replace fd (some ⟨.thread thread, file, some stream⟩)
      (by rintro other ⟨⟩; exact fresh)
    have kept : Function.update table.files fd (some file) = table.files := by
      have here := represents.files fd
      rw [entered] at here
      rw [← show table.files fd = some file from here, Function.update_eq_self]
    simp only [Ledger.record, failed, if_false, entered, Option.map_some]
    refine .replaced (by rw [entered]; exact own_some file none)
      (own_some file (some stream)) ?_ ?_
    · simpa [entered, setStream, kept] using wrapped
    · rw [heldBy_self]
      exact wrapping stream failed

theorem effect_of_close (represents : Represents ledger table) {answer : Int}
    {resume : Int → Code Use}
    (tidy : Tidy named source (ledger.held thread) (.issue (.close fd) resume))
    (served : table.serve (.close fd : Call Use) answer = some after) :
    Effect named thread ledger table source (resume answer)
      (ledger.record thread table (.close fd : Call Use) answer) after source := by
  obtain ⟨⟨file, held⟩, closing⟩ := tidy
  obtain rfl := Option.some.inj served
  have entered := heldBy_eq_some held
  have removed := represents.replace fd none (by rintro stream ⟨⟩)
  refine .replaced (by rw [entered]; exact own_some file none) own_none ?_ (closing answer)
  simpa [entered, setStream] using removed

theorem effect_of_fclose (represents : Represents ledger table) {stream : Nat} {answer : Int}
    {resume : Int → Code Use}
    (tidy : Tidy named source (ledger.held thread) (.issue (.fclose stream) resume))
    (served : table.serve (.fclose stream : Call Use) answer = some after) :
    Effect named thread ledger table source (resume answer)
      (ledger.record thread table (.fclose stream : Call Use) answer) after source := by
  obtain ⟨fd, file, held, closing⟩ := tidy
  have entered := heldBy_eq_some held
  have wraps : table.streams stream = some fd := by
    rw [represents.stream_eq_some, entered]
    rfl
  obtain rfl : (⟨Function.update table.files fd none,
      Function.update table.streams stream none⟩ : Table File) = after := by
    simpa [Table.serve, wraps] using served
  have removed := represents.replace fd none (by rintro other ⟨⟩)
  simp only [Ledger.record, wraps]
  refine .replaced (by rw [entered]; exact own_some file (some stream)) own_none ?_
    (closing answer)
  simpa [entered, setStream] using removed

/-- A call of a tidy thread touches nobody else's descriptors. -/
theorem effect_of_served (represents : Represents ledger table) {request : Call Use}
    {answer : Answer request} {resume : Answer request → Code Use}
    (tidy : Tidy named source (ledger.held thread) (.issue request resume))
    (served : table.serve request answer = some after) :
    Effect named thread ledger table source (resume answer)
      (ledger.record thread table request answer) after
      (sourceAfter named table source request answer) := by
  cases request with
  | dup fd => exact effect_of_dup represents tidy served
  | fdopen fd => exact effect_of_fdopen represents tidy served
  | close fd => exact effect_of_close represents tidy served
  | fclose stream => exact effect_of_fclose represents tidy served
  | use stream what =>
      obtain rfl := Option.some.inj served
      exact .unchanged tidy.2

end Ledgers

section Invariant

variable {names : Task → Int} {body : Task → Code Use} {world next : World File Use Task}

/-- The table is what the ledger says, and every thread is tidy with what it holds. -/
structure Invariant (names : Task → Int) (world : World File Use Task) : Prop where
  represents : Represents world.ledger world.table
  tidy : ∀ thread, TidyThread names (world.ledger.held thread) (world.threads thread)

theorem invariant_initial : Invariant names (World.initial : World File Use Task) where
  represents := ⟨fun _ => rfl, fun _ _ => by simp [World.initial]⟩
  tidy _ _ := rfl

inductive Moves (names : Task → Int) (body : Task → Code Use) (world : World File Use Task) :
    Label File Use Task → World File Use Task → Prop where
  | start {thread : Nat} {task : Task} (idle : world.threads thread = none) :
      Moves names body world (.start thread task) { world with
        threads := Function.update world.threads thread (some ⟨task, body task, none⟩) }
  | call {thread : Nat} {task : Task} {request : Call Use}
      {resume : Answer request → Code Use} {source : Option File}
      {answers : (call : Call Use) → Answer call} {table : Table File}
      (found : world.threads thread = some ⟨task, .issue request resume, source⟩)
      (served : world.table.serve request (answers request) = some table) :
      Moves names body world (.call thread answers)
        { table := table
          ledger := world.ledger.record thread world.table request (answers request)
          threads := Function.update world.threads thread
            (some ⟨task, resume (answers request),
              sourceAfter (names task) world.table source request (answers request)⟩) }
  | finish {thread : Nat} {task : Task} {source : Option File}
      (found : world.threads thread = some ⟨task, .done (), source⟩) :
      Moves names body world (.finish thread) { world with
        threads := Function.update world.threads thread none }
  | opened {fd : Int} {file : File} {stream : Option Nat}
      (vacant : world.table.files fd = none)
      (fresh : ∀ wrapper ∈ stream, world.table.streams wrapper = none) :
      Moves names body world (.opened fd file stream) { world with
        table :=
          { files := Function.update world.table.files fd (some file)
            streams := setStream world.table.streams stream (some fd) }
        ledger := Function.update world.ledger fd (some ⟨.process, file, stream⟩) }
  | closed {fd : Int} {file : File} {stream : Option Nat}
      (entered : world.ledger fd = some ⟨.process, file, stream⟩) :
      Moves names body world (.closed fd) { world with
        table :=
          { files := Function.update world.table.files fd none
            streams := setStream world.table.streams stream none }
        ledger := Function.update world.ledger fd none }

theorem moves_of_step {label : Label File Use Task}
    (stepEq : step names body world label = some next) : Moves names body world label next := by
  cases label with
  | start thread task =>
      cases found : world.threads thread with
      | some state => simp [step, found] at stepEq
      | none =>
          simp only [step, found] at stepEq
          cases stepEq
          exact .start found
  | call thread answers =>
      rcases found : world.threads thread with _ | ⟨task, _ | ⟨request, resume⟩, source⟩
      · simp [step, found] at stepEq
      · simp [step, found] at stepEq
      · simp only [step, found] at stepEq
        obtain ⟨table, served, moved⟩ := Option.map_eq_some_iff.mp stepEq
        cases moved
        exact .call found served
  | finish thread =>
      rcases found : world.threads thread with _ | ⟨task, _ | ⟨request, resume⟩, source⟩
      · simp [step, found] at stepEq
      · simp only [step, found] at stepEq
        cases stepEq
        exact .finish found
      · simp [step, found] at stepEq
  | opened fd file stream =>
      obtain ⟨⟨vacant, fresh⟩, moved⟩ := Option.ite_none_right_eq_some.mp stepEq
      cases moved
      exact .opened vacant fresh
  | closed fd =>
      rcases entered : world.ledger fd with _ | ⟨_ | holder, file, stream⟩
      · simp [step, entered] at stepEq
      · simp only [step, entered] at stepEq
        cases stepEq
        exact .closed entered
      · simp [step, entered] at stepEq

section Effects

variable {ledger after : Ledger File} {table tableAfter : Table File} {named : Int}
  {thread : Nat} {source sourceAfter : Option File} {rest : Code Use}

theorem Effect.represents (effect : Effect named thread ledger table source rest after tableAfter
    sourceAfter) (before : Represents ledger table) : Represents after tableAfter := by
  cases effect with
  | unchanged tidy => exact before
  | replaced ownBefore ownAfter represents tidy => exact represents

theorem Effect.tidy (effect : Effect named thread ledger table source rest after tableAfter
    sourceAfter) : Tidy named sourceAfter (after.held thread) rest := by
  cases effect with
  | unchanged tidy => exact tidy
  | replaced ownBefore ownAfter represents tidy =>
      rw [held_update]
      exact tidy

theorem Effect.held_other (effect : Effect named thread ledger table source rest after tableAfter
    sourceAfter) {other : Nat} (different : other ≠ thread) :
    after.held other = ledger.held other := by
  cases effect with
  | unchanged tidy => rfl
  | replaced ownBefore ownAfter represents tidy =>
      exact held_update_other different ownBefore ownAfter

theorem Effect.entered (effect : Effect named thread ledger table source rest after tableAfter
    sourceAfter) {fd : Int} {file : File} {stream : Option Nat}
    (entered : ledger fd = some ⟨.process, file, stream⟩) :
    after fd = some ⟨.process, file, stream⟩ := by
  cases effect with
  | unchanged tidy => exact entered
  | @replaced changed entry tableAfter sourceAfter ownBefore ownAfter represents tidy =>
      by_cases same : fd = changed
      · subst same
        cases ownBefore _ entered
      · rw [Function.update_of_ne same]
        exact entered

end Effects

/-- The entries of the process are nobody's. -/
theorem held_update_process {ledger : Ledger File} {fd : Int} {entry : Option (Loan File)}
    (thread : Nat) (before : heldBy thread (ledger fd) = none)
    (after : heldBy thread entry = none) :
    Ledger.held (Function.update ledger fd entry) thread = ledger.held thread := by
  have unheld : ledger.held thread fd = none := before
  rw [held_update, after, ← unheld, Function.update_eq_self]

theorem tidyThread_update {threads : Nat → Option (Thread File Use Task)}
    {held heldAfter : Nat → Int → Option (File × Option Nat)}
    (tidy : ∀ other, TidyThread names (held other) (threads other)) {thread : Nat}
    {state : Option (Thread File Use Task)} (here : TidyThread names (heldAfter thread) state)
    (others : ∀ other, other ≠ thread → heldAfter other = held other) (other : Nat) :
    TidyThread names (heldAfter other) (Function.update threads thread state other) := by
  by_cases same : other = thread
  · subst same
    rw [Function.update_self]
    exact here
  · rw [Function.update_of_ne same, others other same]
    exact tidy other

theorem Invariant.moves (invariant : Invariant names world)
    (bodies : ∀ task, Tidy (names task) (none : Option File) (fun _ => none) (body task))
    {label : Label File Use Task} (moves : Moves names body world label next) :
    Invariant names next := by
  cases moves with
  | @start thread task idle =>
      have holdsNothing := invariant.tidy thread
      rw [idle] at holdsNothing
      refine ⟨invariant.represents, ?_⟩
      refine tidyThread_update invariant.tidy ?_ fun _ _ => rfl
      rw [funext holdsNothing]
      exact bodies task
  | @call thread task request resume source answers table found served =>
      have tidy := invariant.tidy thread
      rw [found] at tidy
      have effect := effect_of_served invariant.represents tidy served
      refine ⟨effect.represents invariant.represents, ?_⟩
      exact tidyThread_update invariant.tidy effect.tidy fun other => effect.held_other
  | @finish thread task source found =>
      have tidy := invariant.tidy thread
      rw [found] at tidy
      refine ⟨invariant.represents, ?_⟩
      exact tidyThread_update invariant.tidy tidy fun _ _ => rfl
  | @opened fd file stream vacant fresh =>
      have unentered := invariant.represents.entry_none vacant
      have opened := invariant.represents.replace fd (some ⟨.process, file, stream⟩) fresh
      refine ⟨by simpa [unentered, setStream] using opened, fun thread => ?_⟩
      rw [held_update_process thread (by rw [unentered]; rfl) rfl]
      exact invariant.tidy thread
  | @closed fd file stream entered =>
      have closed := invariant.represents.replace fd none (by rintro stream ⟨⟩)
      refine ⟨by simpa [entered, setStream] using closed, fun thread => ?_⟩
      rw [held_update_process thread (by rw [entered]; rfl) rfl]
      exact invariant.tidy thread

/-- The thread holds an open descriptor, with the stream that wraps it. -/
structure Holds (world : World File Use Task) (thread : Nat) (fd : Int) (file : File)
    (stream : Option Nat) : Prop where
  entered : world.ledger fd = some ⟨.thread thread, file, stream⟩
  isOpen : world.table.files fd = some file
  wraps : ∀ wrapper, world.table.streams wrapper = some fd ↔ stream = some wrapper

/-- The next call of a thread duplicates the descriptor that its task names, or wraps, closes
or uses something that the thread holds. -/
def CallsOwn (world : World File Use Task) (thread : Nat) (named : Int)
    (source : Option File) : Code Use → Prop
  | .issue (.dup fd) _ => fd = named
  | .issue (.fdopen fd) _ => ∃ file, Holds world thread fd file none
  | .issue (.close fd) _ => ∃ file, Holds world thread fd file none
  | .issue (.fclose stream) _ => ∃ fd file, Holds world thread fd file (some stream)
  | .issue (.use stream _) _ =>
      ∃ fd file, Holds world thread fd file (some stream) ∧ source = some file
  | _ => True

/-- Every thread calls on its own descriptors and on the one that its task names, and
without threads the process has what is open to itself. -/
structure Sound (names : Task → Int) (world : World File Use Task) : Prop where
  represents : Represents world.ledger world.table
  calls : ∀ thread state, world.threads thread = some state →
    CallsOwn world thread (names state.task) state.source state.rest
  resting : (∀ thread, world.threads thread = none) →
    ∀ fd loan, world.ledger fd = some loan → loan.holder = .process

/-- A step leaves the descriptors and streams of the process as they were, unless the
process closes them. -/
def Spares (before : World File Use Task) (label : Label File Use Task)
    (after : World File Use Task) : Prop :=
  ∀ fd file stream, before.ledger fd = some ⟨.process, file, stream⟩ → label ≠ .closed fd →
    after.ledger fd = some ⟨.process, file, stream⟩

theorem Invariant.holds (invariant : Invariant names world) {thread : Nat} {fd : Int} {file : File}
    {stream : Option Nat} (held : world.ledger.held thread fd = some (file, stream)) :
    Holds world thread fd file stream := by
  have entered := heldBy_eq_some held
  refine ⟨entered, ?_, fun wrapper => ?_⟩
  · rw [invariant.represents.files, entered]
    rfl
  · rw [invariant.represents.stream_eq_some, entered]
    rfl

theorem Invariant.callsOwn (invariant : Invariant names world) {thread : Nat}
    {state : Thread File Use Task} (found : world.threads thread = some state) :
    CallsOwn world thread (names state.task) state.source state.rest := by
  have tidy := invariant.tidy thread
  rw [found] at tidy
  obtain ⟨task, rest, source⟩ := state
  cases rest with
  | done result => trivial
  | issue request resume =>
      cases request with
      | dup fd => exact tidy.1
      | fdopen fd =>
          obtain ⟨file, held, -⟩ := tidy
          exact ⟨file, invariant.holds held⟩
      | close fd =>
          obtain ⟨⟨file, held⟩, -⟩ := tidy
          exact ⟨file, invariant.holds held⟩
      | fclose stream =>
          obtain ⟨fd, file, held, -⟩ := tidy
          exact ⟨fd, file, invariant.holds held⟩
      | use stream what =>
          obtain ⟨⟨fd, file, held, isSource⟩, -⟩ := tidy
          exact ⟨fd, file, invariant.holds held, isSource⟩

theorem Invariant.sound (invariant : Invariant names world) : Sound names world where
  represents := invariant.represents
  calls _ _ found := invariant.callsOwn found
  resting idle fd loan entered := by
    obtain ⟨_ | thread, file, stream⟩ := loan
    · rfl
    · have tidy := invariant.tidy thread
      rw [idle thread] at tidy
      have unheld : heldBy thread (world.ledger fd) = none := tidy fd
      rw [entered, heldBy_self] at unheld
      cases unheld

theorem Invariant.spares (invariant : Invariant names world) {label : Label File Use Task}
    (moves : Moves names body world label next) : Spares world label next := by
  intro fd file stream entered notClosed
  cases moves with
  | start idle => exact entered
  | @call thread task request resume source answers table found served =>
      have tidy := invariant.tidy thread
      rw [found] at tidy
      exact (effect_of_served invariant.represents tidy served).entered entered
  | finish found => exact entered
  | @opened opened _ _ vacant fresh =>
      have different : fd ≠ opened := by
        rintro rfl
        rw [invariant.represents.entry_none vacant] at entered
        cases entered
      exact (Function.update_of_ne different _ _).trans entered
  | @closed closed _ _ enteredClosed =>
      have different : fd ≠ closed := fun same => notClosed (congrArg Label.closed same.symm)
      exact (Function.update_of_ne different _ _).trans entered

/-- In every interleaving of tidy threads with a process that opens and closes
descriptors of its own, every thread calls on its own descriptors and duplicates the one
that its task names, nobody's descriptors change under him, and what the threads opened is
closed when they have finished. -/
theorem tidy_threads
    (bodies : ∀ task, Tidy (names task) (none : Option File) (fun _ => none) (body task))
    (run : List (Label File Use Task)) :
    EveryStep (step names body)
      (fun before label after => Spares before label after ∧ Sound names after)
      World.initial run := by
  refine @everyStep_of_invariant_before _ _ (step names body) (Invariant names) _ ?_ ?_ _
    invariant_initial run
  · intro before label after invariant stepEq
    exact invariant.moves bodies (moves_of_step stepEq)
  · intro before label after invariant stepEq
    have moves := moves_of_step stepEq
    exact ⟨invariant.spares moves, (invariant.moves bodies moves).sound⟩

end Invariant

end DescriptorTables
