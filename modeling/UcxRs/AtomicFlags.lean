import Mathlib.Logic.Function.Basic

/-!
# Flags that one party holds

An atomic flag serves as a lock that nobody waits for: a party takes it by a
compare-and-exchange from `false` to `true` and gives it back by storing
`false`.  What a party is doing is a state of its own, and some of these states
hold the flag.  The flag says whether anybody holds it as long as parties take it
when it is free, and only its holder gives it back.
-/

namespace AtomicFlags

/-- `AtomicBool::compare_exchange`: its result and the flag after it. -/
def compareExchange (flag current new : Bool) : Except Bool Bool × Bool :=
  if flag = current then (.ok flag, new) else (.error flag, flag)

variable {Party State : Type}

/-- The flag is set exactly when a party holds it, and no two parties do. -/
structure Tracks (holds : State → Prop) (flag : Bool) (states : Party → State) : Prop where
  taken : flag = true ↔ ∃ party, holds (states party)
  exclusive : ∀ first second, holds (states first) → holds (states second) → first = second

namespace Tracks

variable {holds : State → Prop} {flag : Bool} {states : Party → State} {party : Party}
  {moved : State}

theorem initial {start : State} (startsWithout : ¬ holds start) :
    Tracks holds false (fun _ : Party => start) := by
  constructor
  case taken =>
    refine iff_of_false Bool.false_ne_true ?_
    rintro ⟨party, held⟩
    exact startsWithout held
  case exclusive => exact fun first _ held => absurd held startsWithout

theorem free_iff (tracks : Tracks holds flag states) :
    flag = false ↔ ∀ party, ¬ holds (states party) := by
  rw [← Bool.not_eq_true, tracks.taken, not_exists]

variable [DecidableEq Party]

/-- A party moves on and holds the flag as before. -/
theorem keep (tracks : Tracks holds flag states)
    (same : holds moved ↔ holds (states party)) :
    Tracks holds flag (Function.update states party moved) := by
  have each : ∀ other, holds (Function.update states party moved other) ↔
      holds (states other) := by
    intro other
    by_cases here : other = party
    · subst here
      rw [Function.update_self]
      exact same
    · rw [Function.update_of_ne here]
  constructor
  case taken => exact tracks.taken.trans (exists_congr fun other => (each other).symm)
  case exclusive =>
    intro first second heldFirst heldSecond
    exact tracks.exclusive first second ((each first).mp heldFirst) ((each second).mp heldSecond)

/-- A party takes a free flag. -/
theorem acquire (tracks : Tracks holds false states) (held : holds moved) :
    Tracks holds true (Function.update states party moved) := by
  have nobody := tracks.free_iff.mp rfl
  have onlyParty : ∀ other, holds (Function.update states party moved other) →
      other = party := by
    intro other heldOther
    by_contra different
    rw [Function.update_of_ne different] at heldOther
    exact nobody other heldOther
  constructor
  case taken =>
    refine iff_of_true rfl ⟨party, ?_⟩
    rw [Function.update_self]
    exact held
  case exclusive =>
    intro first second heldFirst heldSecond
    exact (onlyParty first heldFirst).trans (onlyParty second heldSecond).symm

/-- The holder gives the flag back. -/
theorem release (tracks : Tracks holds flag states) (held : holds (states party))
    (without : ¬ holds moved) :
    Tracks holds false (Function.update states party moved) := by
  have nobody : ∀ other, ¬ holds (Function.update states party moved other) := by
    intro other heldOther
    by_cases here : other = party
    · rw [here, Function.update_self] at heldOther
      exact without heldOther
    · rw [Function.update_of_ne here] at heldOther
      exact here (tracks.exclusive other party heldOther held)
  constructor
  case taken =>
    refine iff_of_false Bool.false_ne_true ?_
    rintro ⟨other, heldOther⟩
    exact nobody other heldOther
  case exclusive => exact fun first _ heldFirst => absurd heldFirst (nobody first)

end Tracks

end AtomicFlags
