import Mathlib.Data.List.Perm.Basic
import Mathlib.Logic.Function.Basic

/-!
# Reference-counted cells

A shared cell lives at an address for as long as its count of strong references
is not zero; after that, the address may be given to another cell.  A pointer is
an address together with the origin of its cell, the number of the allocation
that made it.  Programs see only addresses.  The invariant of this file says that
among the pointers that exist, equal addresses mean equal origins: a cell cannot
be replaced while something points at it.
-/

namespace SharedCells

variable {Address Value : Type} [DecidableEq Address]

structure Cell (Value : Type) where
  strong : Nat
  value : Value
  deriving DecidableEq, Repr

/-- The cells at their addresses; `none` is a free address. -/
abbrev Heap (Address Value : Type) := Address → Option (Cell Value)

namespace Heap

/-- The strong references to the cell at an address. -/
def strong (heap : Heap Address Value) (address : Address) : Nat :=
  (heap address).elim 0 Cell.strong

/-- What the cell at an address holds. -/
def value (heap : Heap Address Value) (address : Address) : Option Value :=
  (heap address).map Cell.value

/-- `Arc::new`. -/
def alloc (heap : Heap Address Value) (address : Address) (value : Value) :
    Heap Address Value :=
  Function.update heap address (some ⟨1, value⟩)

/-- `Arc::clone`. -/
def clone (heap : Heap Address Value) (address : Address) : Heap Address Value :=
  Function.update heap address
    ((heap address).map fun cell => { cell with strong := cell.strong + 1 })

/-- The drop of an `Arc`; the last one frees the address. -/
def release (heap : Heap Address Value) (address : Address) : Heap Address Value :=
  Function.update heap address ((heap address).bind fun cell =>
    if cell.strong ≤ 1 then none else some { cell with strong := cell.strong - 1 })

def write (heap : Heap Address Value) (address : Address) (value : Value) :
    Heap Address Value :=
  Function.update heap address ((heap address).map fun cell => { cell with value := value })

variable {heap : Heap Address Value} {address other : Address} {value : Value}

theorem strong_alloc_self : (heap.alloc address value).strong address = 1 := by
  simp [strong, alloc]

theorem strong_alloc_of_ne (differs : other ≠ address) :
    (heap.alloc address value).strong other = heap.strong other := by
  simp [strong, alloc, differs]

theorem strong_clone_self {cell : Cell Value} (found : heap address = some cell) :
    (heap.clone address).strong address = heap.strong address + 1 := by
  simp [strong, clone, found]

theorem strong_clone_of_ne (differs : other ≠ address) :
    (heap.clone address).strong other = heap.strong other := by
  simp [strong, clone, differs]

theorem strong_release_self :
    (heap.release address).strong address = heap.strong address - 1 := by
  unfold strong release
  rw [Function.update_self]
  cases heap address with
  | none => rfl
  | some cell =>
      by_cases last : cell.strong ≤ 1
      · simp [last]
      · simp [last]

theorem strong_release_of_ne (differs : other ≠ address) :
    (heap.release address).strong other = heap.strong other := by
  simp [strong, release, differs]

theorem strong_write : (heap.write address value).strong other = heap.strong other := by
  unfold strong write
  by_cases same : other = address
  · subst same
    rw [Function.update_self]
    cases heap other <;> rfl
  · rw [Function.update_of_ne same]

theorem value_alloc_self : (heap.alloc address value).value address = some value := by
  simp [Heap.value, alloc]

theorem value_alloc_of_ne (differs : other ≠ address) :
    (heap.alloc address value).value other = heap.value other := by
  simp [Heap.value, alloc, differs]

theorem value_clone : (heap.clone address).value other = heap.value other := by
  unfold Heap.value clone
  by_cases same : other = address
  · subst same
    rw [Function.update_self, Option.map_map]
    rfl
  · rw [Function.update_of_ne same]

theorem value_write_of_ne (differs : other ≠ address) :
    (heap.write address value).value other = heap.value other := by
  simp [Heap.value, write, differs]

/-- A cell that survives a release keeps its contents. -/
theorem value_release {cell : Cell Value} (survives : heap.release address other = some cell) :
    (heap.release address).value other = heap.value other := by
  unfold Heap.value
  rw [survives]
  by_cases same : other = address
  · subst same
    unfold release at survives
    rw [Function.update_self] at survives
    obtain ⟨before, found, kept⟩ := Option.bind_eq_some_iff.mp survives
    obtain ⟨_, kept⟩ := Option.ite_none_left_eq_some.mp kept
    cases kept
    rw [found]
    rfl
  · unfold release at survives
    rw [Function.update_of_ne same] at survives
    rw [survives]

end Heap

structure Pointer (Address : Type) where
  address : Address
  origin : Nat
  deriving DecidableEq, Repr

/-- The pointers to an address. -/
def pointing (address : Address) (pointers : List (Pointer Address)) : Nat :=
  pointers.countP fun pointer => pointer.address = address

/-- Each pointer has its strong reference, and the pointers to one address share
their origin; `next` is the number of the next allocation. -/
structure Tracked (heap : Heap Address Value) (pointers : List (Pointer Address))
    (next : Nat) : Prop where
  counted : ∀ address, pointing address pointers ≤ heap.strong address
  past : ∀ pointer ∈ pointers, pointer.origin < next
  oneOrigin : ∀ first ∈ pointers, ∀ second ∈ pointers,
    first.address = second.address ↔ first.origin = second.origin

namespace Tracked

variable {heap : Heap Address Value} {pointers : List (Pointer Address)} {next index : Nat}
  {pointer : Pointer Address} {address : Address} {value : Value}

theorem initial : Tracked (fun _ => none : Heap Address Value) [] 0 :=
  ⟨fun _ => Nat.le_refl 0, fun _ member => absurd member List.not_mem_nil,
    fun _ member => absurd member List.not_mem_nil⟩

/-- What is pointed at is allocated. -/
theorem allocated (tracked : Tracked heap pointers next) (member : pointer ∈ pointers) :
    ∃ cell, heap pointer.address = some cell := by
  have counted := tracked.counted pointer.address
  have some : 0 < pointing pointer.address pointers :=
    List.countP_pos_iff.mpr ⟨pointer, member, decide_eq_true rfl⟩
  cases found : heap pointer.address with
  | none => simp [Heap.strong, found] at counted; omega
  | some cell => exact ⟨cell, rfl⟩

theorem pointing_append (pointers : List (Pointer Address)) (pointer : Pointer Address)
    (address : Address) :
    pointing address (pointers ++ [pointer]) =
      pointing address pointers + if pointer.address = address then 1 else 0 := by
  simp [pointing, List.countP_append, List.countP_cons]

theorem pointing_eraseIdx (found : pointers[index]? = some pointer) (address : Address) :
    pointing address (pointers.eraseIdx index) +
      (if pointer.address = address then 1 else 0) = pointing address pointers := by
  obtain ⟨within, at_index⟩ := List.getElem?_eq_some_iff.mp found
  have perm := List.getElem_cons_eraseIdx_perm within
  unfold pointing
  rw [← perm.countP_eq, List.countP_cons, at_index]
  simp

/-- An allocation takes a free address, at which nothing points. -/
theorem alloc (tracked : Tracked heap pointers next) (free : heap address = none)
    (value : Value) :
    Tracked (heap.alloc address value) (pointers ++ [⟨address, next⟩]) (next + 1) := by
  have elsewhere : ∀ pointer ∈ pointers, pointer.address ≠ address := by
    rintro pointer member rfl
    obtain ⟨cell, found⟩ := tracked.allocated member
    cases free.symm.trans found
  constructor
  case counted =>
    intro other
    rw [pointing_append]
    by_cases same : other = address
    · subst same
      have none : pointing other pointers = 0 :=
        List.countP_eq_zero.mpr fun pointer member =>
          decide_eq_true_iff.not.mpr (elsewhere pointer member)
      have one : (heap.alloc other value).strong other = 1 := Heap.strong_alloc_self
      rw [if_pos rfl]
      omega
    · rw [Heap.strong_alloc_of_ne same, if_neg (Ne.symm same)]
      exact tracked.counted other
  case past =>
    intro pointer member
    rcases List.mem_append.mp member with old | new
    · exact Nat.lt_succ_of_lt (tracked.past pointer old)
    · rw [List.mem_singleton.mp new]
      exact Nat.lt_succ_self next
  case oneOrigin =>
    have distinct : ∀ pointer ∈ pointers,
        (pointer.address = address ↔ pointer.origin = next) := fun pointer member =>
      iff_of_false (elsewhere pointer member) (Nat.ne_of_lt (tracked.past pointer member))
    intro first memberFirst second memberSecond
    rcases List.mem_append.mp memberFirst with oldFirst | newFirst
    · rcases List.mem_append.mp memberSecond with oldSecond | newSecond
      · exact tracked.oneOrigin first oldFirst second oldSecond
      · rw [List.mem_singleton.mp newSecond]
        exact distinct first oldFirst
    · rw [List.mem_singleton.mp newFirst]
      rcases List.mem_append.mp memberSecond with oldSecond | newSecond
      · exact eq_comm.trans ((distinct second oldSecond).trans eq_comm)
      · rw [List.mem_singleton.mp newSecond]
        exact iff_of_true rfl rfl

/-- A clone points where its original does. -/
theorem clone (tracked : Tracked heap pointers next) (member : pointer ∈ pointers) :
    Tracked (heap.clone pointer.address) (pointers ++ [pointer]) next := by
  obtain ⟨cell, found⟩ := tracked.allocated member
  have same : ∀ other ∈ pointers ++ [pointer], other ∈ pointers := by
    intro other isMember
    rcases List.mem_append.mp isMember with old | new
    · exact old
    · rw [List.mem_singleton.mp new]
      exact member
  constructor
  case counted =>
    intro other
    have counted := tracked.counted other
    rw [pointing_append]
    by_cases here : pointer.address = other
    · rw [if_pos here, ← here, Heap.strong_clone_self found, here]
      exact Nat.add_le_add_right counted 1
    · rw [if_neg here, Heap.strong_clone_of_ne (Ne.symm here)]
      exact counted
  case past => exact fun other isMember => tracked.past other (same other isMember)
  case oneOrigin =>
    exact fun first memberFirst second memberSecond =>
      tracked.oneOrigin first (same first memberFirst) second (same second memberSecond)

/-- A pointer that goes away without its reference. -/
theorem forget (tracked : Tracked heap pointers next) (index : Nat) :
    Tracked heap (pointers.eraseIdx index) next := by
  have kept : ∀ other ∈ pointers.eraseIdx index, other ∈ pointers :=
    fun other member => (List.eraseIdx_sublist pointers index).subset member
  constructor
  case counted =>
    intro address
    have fewer : pointing address (pointers.eraseIdx index) ≤ pointing address pointers :=
      (List.eraseIdx_sublist pointers index).countP_le
    exact Nat.le_trans fewer (tracked.counted address)
  case past => exact fun other member => tracked.past other (kept other member)
  case oneOrigin =>
    exact fun first memberFirst second memberSecond =>
      tracked.oneOrigin first (kept first memberFirst) second (kept second memberSecond)

/-- A pointer that gives its reference back. -/
theorem release (tracked : Tracked heap pointers next)
    (found : pointers[index]? = some pointer) :
    Tracked (heap.release pointer.address) (pointers.eraseIdx index) next := by
  refine ⟨fun address => ?_, (tracked.forget index).past, (tracked.forget index).oneOrigin⟩
  have counted := tracked.counted address
  rw [← pointing_eraseIdx found address] at counted
  by_cases here : pointer.address = address
  · subst here
    rw [if_pos rfl] at counted
    rw [Heap.strong_release_self]
    omega
  · rw [if_neg here] at counted
    rw [Heap.strong_release_of_ne (Ne.symm here)]
    exact counted

theorem write (tracked : Tracked heap pointers next) (address : Address) (value : Value) :
    Tracked (heap.write address value) pointers next := by
  refine ⟨fun other => ?_, tracked.past, tracked.oneOrigin⟩
  rw [Heap.strong_write]
  exact tracked.counted other

end Tracked

end SharedCells
