import UcxRs.UcxResources

/-!
# Every resource is given back once

The component of resources settles, so what it takes over is released exactly once
when all values have been dropped.  It takes over everything that UCX hands out but
one thing: the address of a worker query, which ends up in a plain `WorkerAttr` and
is never released.
-/

namespace UcxRs

namespace UcxResources

open HandleOwnership
open TransitionRuns

/-- A run of the safe functions that acquire resources, of the methods of what they
return, and of drops, in any interleaving. -/
abbrev ResourceWorld := World Call Answer Resource Resident

/-- The grants and releases of a resource, newest first. -/
def usesOf (resource : Resource) (log : List (Entry Call Answer)) : List Use :=
  uses handedOut releasedResource resource log

/-- Nothing is released but what UCX handed out and has not got back. -/
def ReleasesHandedOut (world : ResourceWorld) : Prop :=
  ∀ newer entry older resource, world.log = newer ++ entry :: older →
    resource.isNonNull = true → releasedResource entry.call = some resource →
      (usesOf resource older).head? = some .granted

/-- Each time UCX handed a resource out, it was released exactly once. -/
def ReleasedOnce (world : ResourceWorld) : Prop :=
  ∀ resource : Resource, resource.isNonNull = true →
    ∃ count, usesOf resource world.log = rounds count

/-- A call of `ucp_worker_query` that handed out an address. -/
def queriedAddress : (call : Call) → Answer call → Bool
  | .ucpWorkerQuery _ attr, (status, filled) =>
      decide (attr.fieldMask &&& WorkerAttrFields.address ≠ 0) && !status.isErr &&
        decide (filled.address.address ≠ 0)
  | _, _ => false

def NoAddressQueried (world : ResourceWorld) : Prop :=
  ∀ entry ∈ world.log, queriedAddress entry.call entry.answer = false

theorem resources_grantsWithin : resources.GrantsWithin handedOut where
  within := by
    intro call answer handle granted
    cases call <;> first | exact granted | cases granted
  of_releases := by
    intro call handle released answer
    cases call <;> first | rfl | cases released

/-- What is handed out is taken over, unless it is a queried address. -/
theorem followed_iff (entry : Entry Call Answer) :
    (∀ resource : Resource, resource.isNonNull = true →
        handedOut entry.call entry.answer = some resource →
          resources.granted entry = some resource) ↔
      queriedAddress entry.call entry.answer = false := by
  obtain ⟨slot, posting, call, answer⟩ := entry
  cases call with
  | ucpWorkerQuery worker attr =>
      obtain ⟨status, filled⟩ := answer
      change (∀ resource : Resource, resource.isNonNull = true →
        (if attr.fieldMask &&& WorkerAttrFields.address ≠ 0 then
          ifOk status (.workerAddress worker filled.address) else none) = some resource →
            none = some resource) ↔
        (decide (attr.fieldMask &&& WorkerAttrFields.address ≠ 0) && !status.isErr &&
          decide (filled.address.address ≠ 0)) = false
      unfold ifOk statusToResult
      by_cases selected : attr.fieldMask &&& WorkerAttrFields.address ≠ 0
      · rw [decide_eq_true selected]
        simp only [if_pos selected]
        cases failed : status.isErr with
        | true => simp
        | false =>
            simp only [Bool.false_eq_true, if_false, Bool.not_false, Bool.true_and]
            constructor
            · intro followed
              by_contra reported
              have nonNull := of_decide_eq_true (Bool.not_eq_false _ ▸ reported)
              cases followed (.workerAddress worker filled.address) (decide_eq_true nonNull) rfl
            · intro silent resource nonNull taken
              cases taken
              exact absurd (nonNull.symm.trans silent) (by decide)
      · rw [decide_eq_false selected]
        simp only [if_neg selected]
        simp
  | _ => exact iff_of_true (fun _ _ taken => taken) rfl

/-- In every state of every run nothing is released that is not handed out, and a run
in which all values have been dropped has released every resource exactly once if and
only if no worker query handed out an address. -/
theorem released_once_iff (run : List (Label Call Answer Posting Operation)) :
    EveryStep resources.step
      (fun _ _ next => ReleasesHandedOut next ∧
        (next.Complete → (ReleasedOnce next ↔ NoAddressQueried next)))
      World.initial run := by
  have preserved : ∀ {world label next}, resources.Linear world ∧ resources.Reclaims world →
      resources.step world label = some next →
        resources.Linear next ∧ resources.Reclaims next :=
    fun holds stepEq =>
      ⟨linear_step holds.1 stepEq, reclaims_step resources_settles holds.2 stepEq⟩
  apply everyStep_of_invariant preserved
  · rintro _ _ next ⟨linear, reclaims⟩
    constructor
    · intro newer entry older resource split nonNull released
      exact head_uses_of_release resources_grantsWithin linear split nonNull released
    · intro complete
      refine (all_rounds_iff resources_grantsWithin linear reclaims complete).trans ?_
      exact forall₂_congr fun entry _ => followed_iff entry
  · exact ⟨linear_initial, reclaims_initial⟩

/-- UCX answers a worker query with an address. -/
def withAddress : (call : Call) → Option (Answer call)
  | .ucpWorkerQuery _ attr => some (.ok, { attr with address := ⟨0x3000⟩, addressLength := 8 })
  | _ => none

/-- Query the address of a worker, and drop what the query returned. -/
def queryAndDrop : List (Label Call Answer Posting Operation) :=
  [.post 0 (.query ⟨⟨0x1000⟩, ⟨0⟩⟩ WorkerAttrFields.address), .answer 0 withAddress,
    .finish 0 0, .operate 0 .drop, .finish 0 0]

/-- The address is handed out, everything is dropped, and nothing is released. -/
theorem queried_address_leaks :
    ∃ world, runFrom resources.step World.initial queryAndDrop = some world ∧
      world.Complete ∧
      usesOf (.workerAddress ⟨0x1000⟩ ⟨0x3000⟩) world.log = [.granted] ∧
      ¬ ReleasedOnce world := by
  refine ⟨_, rfl, ?_, rfl, ?_⟩
  · intro index
    by_cases first : index = 0
    · rw [first]
      exact .inr rfl
    · left
      simp [World.setSlot, World.initial, first]
  · intro balanced
    obtain ⟨count, alternate⟩ := balanced (.workerAddress ⟨0x1000⟩ ⟨0x3000⟩) (by decide)
    have counts := count_rounds count
    rw [← alternate] at counts
    exact absurd counts (by decide)

end UcxResources

end UcxRs
