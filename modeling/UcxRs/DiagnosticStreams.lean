import UcxRs.ContextCreation
import UcxRs.DescriptorTables

/-!
# Diagnostics on a caller's descriptor

UCX writes its diagnostics to a C stream.  The wrapper takes a descriptor instead: it
duplicates the descriptor, wraps the duplicate in a stream for one call of UCX, and
closes both.  Titles and memory specifications go to C as strings that end at a zero, so
one with a zero inside prints nothing.

Several threads may print at once, on descriptors that the process opens and closes
meanwhile.
-/

namespace UcxRs

open Interaction (Program)

namespace DiagnosticStreams

/-- The calls of UCX that write to a stream. -/
inductive Report where
  | configPrint (config : ConfigHandle) (title : CString) (printFlags : BitVec 32)
  | contextPrintInfo (context : ContextHandle)
  | workerPrintInfo (worker : WorkerHandle)
  | epPrintInfo (ep : EpHandle)
  | memPrintInfo (memSpec : CString) (context : ContextHandle)
  deriving DecidableEq, Repr

/-- Code that prints. -/
abbrev Printer (Result : Type) :=
  Program (DescriptorTables.Call Report) DescriptorTables.Answer Result

abbrev libc (call : DescriptorTables.Call Report) : Printer (DescriptorTables.Answer call) :=
  Program.call call

/-- `with_file_stream`, whose closure makes one call of UCX. -/
def withFileStream (fd : Int) (report : Report) : Printer (Option Unit) := do
  let duplicate : Int ← libc (.dup fd)
  if duplicate < 0 then pure none
  else do
    let stream : Nat ← libc (.fdopen duplicate)
    if stream = 0 then do
      let _ ← libc (.close duplicate)
      pure none
    else do
      let result ← libc (.use stream report)
      let _ ← libc (.fclose stream)
      pure (some result)

end DiagnosticStreams

open DiagnosticStreams (Printer withFileStream)

/-- `Config::print`; the title is a string at an address that the allocator chose. -/
def Context.Config.print (config : Context.Config) (address : Word)
    (title : List (BitVec 8)) (printFlags : BitVec 32) (fd : Int) : Printer Unit :=
  match CString.new address title with
  | none => pure ()
  | some title => do
      let _ ← withFileStream fd (.configPrint config.handle title printFlags)

def Context.printInfo (context : Context) (fd : Int) : Printer Unit := do
  let _ ← withFileStream fd (.contextPrintInfo context.handle)

/-- `config::context_print_info`. -/
def contextPrintInfo (context : ContextHandle) (fd : Int) : Printer Unit := do
  let _ ← withFileStream fd (.contextPrintInfo context)

def Worker.printInfo (worker : Worker) (fd : Int) : Printer Unit := do
  let _ ← withFileStream fd (.workerPrintInfo worker.handle)

def Ep.printInfo (ep : Ep) (fd : Int) : Printer Unit := do
  let _ ← withFileStream fd (.epPrintInfo ep.handle)

/-- `memh::mem_print_info`; `false` is its `NulError`. -/
def memPrintInfo (address : Word) (memSpec : List (BitVec 8)) (context : Context) (fd : Int) :
    Printer Bool :=
  match CString.new address memSpec with
  | none => pure false
  | some spec => do
      let _ ← withFileStream fd (.memPrintInfo spec context.handle)
      pure true

namespace DiagnosticStreams

open DescriptorTables
open TransitionRuns (EveryStep runFrom)

/-- A print function and its arguments. -/
inductive Printing where
  | config (config : Context.Config) (address : Word) (title : List (BitVec 8))
      (printFlags : BitVec 32) (fd : Int)
  | context (context : Context) (fd : Int)
  | rawContext (context : ContextHandle) (fd : Int)
  | worker (worker : Worker) (fd : Int)
  | ep (ep : Ep) (fd : Int)
  | mem (address : Word) (memSpec : List (BitVec 8)) (context : Context) (fd : Int)

/-- The descriptor that the caller names. -/
def Printing.fd : Printing → Int
  | .config _ _ _ _ fd => fd
  | .context _ fd => fd
  | .rawContext _ fd => fd
  | .worker _ fd => fd
  | .ep _ fd => fd
  | .mem _ _ _ fd => fd

/-- The code of a print function; its result goes back to the caller. -/
def Printing.body : Printing → Printer Unit
  | .config configuration address title printFlags fd =>
      configuration.print address title printFlags fd
  | .context shared fd => shared.printInfo fd
  | .rawContext handle fd => contextPrintInfo handle fd
  | .worker progressed fd => progressed.printInfo fd
  | .ep connected fd => connected.printInfo fd
  | .mem address memSpec shared fd => do
      let _ ← memPrintInfo address memSpec shared fd

section Tidiness

variable {File : Type}

/-- A thread that holds nothing. -/
abbrev nothing : Int → Option (File × Option Nat) :=
  fun _ => none

/-- `with_file_stream` duplicates the descriptor that it is given and closes what it opened,
whichever of its calls fails. -/
theorem tidy_withFileStream (fd : Int) (report : Report) {next : Option Unit → Printer Unit}
    (rest : ∀ (source : Option File) result, Tidy fd source nothing (next result)) :
    Tidy fd (none : Option File) nothing (withFileStream fd report >>= next : Printer Unit) := by
  have emptied : ∀ (duplicate : Int) (entry : Option (File × Option Nat)),
      Function.update (Function.update nothing duplicate entry) duplicate none =
        (nothing : Int → Option (File × Option Nat)) := by
    intro duplicate entry
    rw [Function.update_idem, Function.update_eq_self]
  refine ⟨rfl, fun duplicate failed => ?_, fun duplicate file duplicated _ => ?_⟩
  · simp only [Program.andThen, failed, if_true]
    exact rest none none
  · simp only [Program.andThen, duplicated, if_false]
    refine ⟨file, Function.update_self .., ?_, fun stream opened => ?_⟩
    · -- `fdopen` failed: the duplicate is closed as it is
      refine ⟨⟨file, Function.update_self ..⟩, fun _ => ?_⟩
      rw [emptied]
      exact rest _ _
    · simp only [Program.andThen, opened, if_false]
      refine ⟨⟨duplicate, file, Function.update_self .., rfl⟩, duplicate, file,
        Function.update_self .., fun _ => ?_⟩
      rw [Function.update_idem, emptied]
      exact rest _ _

theorem tidy_body (printing : Printing) :
    Tidy printing.fd (none : Option File) nothing printing.body := by
  have prints : ∀ fd report, Tidy fd (none : Option File) nothing
      (withFileStream fd report >>= fun _ => pure () : Printer Unit) := fun fd report =>
    tidy_withFileStream fd report fun _ _ _ => rfl
  cases printing with
  | config config address title printFlags fd =>
      change Tidy fd _ _ (config.print address title printFlags fd)
      unfold Context.Config.print
      cases CString.new address title with
      | none => exact fun _ => rfl
      | some title => exact prints fd _
  | mem address memSpec context fd =>
      change Tidy fd _ _
        (memPrintInfo address memSpec context fd >>= fun _ => pure () : Printer Unit)
      unfold memPrintInfo
      cases CString.new address memSpec with
      | none => exact fun _ => rfl
      | some spec =>
          rw [bind_assoc]
          exact tidy_withFileStream fd _ fun _ _ _ => rfl
  | context context fd => exact prints fd _
  | rawContext context fd => exact prints fd _
  | worker worker fd => exact prints fd _
  | ep ep fd => exact prints fd _

end Tidiness

/-- Any number of threads print in any interleaving, while the process opens and closes
descriptors of its own and the system gives out closed numbers again.  Every thread
duplicates the descriptor that its caller named and nothing else; UCX is given an open
stream, which stands for the file that was behind that descriptor then; every thread closes
its own duplicate, the descriptors of the process stay as they were, and what is open when
no thread prints belongs to the process. -/
theorem prints_keep_descriptors {File : Type} (run : List (Label File Report Printing)) :
    EveryStep (step Printing.fd Printing.body)
      (fun before label after => Spares before label after ∧ Sound Printing.fd after)
      World.initial run :=
  tidy_threads tidy_body run

/-- A system that gives out one descriptor and one stream. -/
def answering (descriptor : Int) (stream : Nat) :
    (call : DescriptorTables.Call Report) → DescriptorTables.Answer call
  | .dup _ => descriptor
  | .fdopen _ => stream
  | .close _ => (0 : Int)
  | .fclose _ => (0 : Int)
  | .use _ _ => ()

-- `fdopen` fails for one thread while another one prints to descriptor 3
example :
    (runFrom (step Printing.fd Printing.body) World.initial
      [.opened 3 "report" none, .start 0 (.context ⟨⟨0x1000⟩⟩ 3),
        .start 1 (.worker ⟨⟨0x2000⟩, ⟨0⟩⟩ 3), .call 0 (answering 4 7), .call 1 (answering 5 0),
        .call 1 (answering 5 0), .call 0 (answering 4 7), .call 1 (answering 5 0), .finish 1,
        .call 0 (answering 4 7), .call 0 (answering 4 7), .finish 0]).map
      (fun world => (world.table.files 3, world.table.files 4, world.table.files 5,
        world.table.streams 7)) = some (some "report", none, none, none) := by
  decide

end DiagnosticStreams

end UcxRs
