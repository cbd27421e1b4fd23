import UcxRs.EndpointParams
import UcxRs.TransitionRuns

/-!
# Connection requests are consumed at most once

A delivered connection request lives in a `ConnRequest`, in an endpoint builder
or in built parameters, and UCX consumes its handle in one rejection or in one
creation that advertises it.  The handle also stays behind in the raw block of
a builder, next to the mask bit that advertises it: parameters from a second
`build` advertise a request that they do not own.

The world is that of the requests and of everything that may hold one.  The
states of the listeners may change arbitrarily between its steps, so every
interleaving with the listener API is among its runs.
-/

namespace UcxRs

namespace ConnRequestConsumption

open Interaction (Environment)
open Interaction.Program
open TransitionRuns

/-- A callback delivered a handle, or the wrapper called UCX. -/
inductive Event where
  | delivered (handle : ConnRequestPointer)
  | called (call : Call)
  deriving DecidableEq, Repr

def advertises (params : UcpEpParams) : Bool :=
  params.fieldMask &&& UcpEpParam.fieldConnRequest != 0

/-- The connection request that UCX consumes in a call. -/
def consumedRequest : Call → Option ConnRequestPointer
  | .ucpListenerReject _ request => some request
  | .ucpEpCreate _ params => if advertises params then some params.connRequest else none
  | _ => none

def Event.delivers (handle : ConnRequestPointer) : Event → Bool
  | delivered other => other == handle
  | called _ => false

def Event.consumes (handle : ConnRequestPointer) : Event → Bool
  | delivered _ => false
  | called call => consumedRequest call == some handle

def deliveries (handle : ConnRequestPointer) (log : List Event) : Nat :=
  log.countP (Event.delivers handle)

def consumptions (handle : ConnRequestPointer) (log : List Event) : Nat :=
  log.countP (Event.consumes handle)

/-- The setters of the builder other than `conn_request`. -/
inductive Setter where
  | address (workerAddress : RemoteWorkerAddress)
  | sockaddr (addr : SockAddr)
  | paramsFlags (flags : Ep.ParamsFlags)
  | errMode (mode : ErrorHandlerMode)
  | errHandler (cb : Word)
  | errHandlerArg (ptr : Word)
  | userData (ptr : Word)
  | name (allocation : Word) (bytes : List (BitVec 8))
  deriving DecidableEq, Repr

/-- A setter that fails leaves the builder as it was. -/
def Setter.apply (builder : Ep.ParamsBuilder) : Setter → Ep.ParamsBuilder
  | address workerAddress => builder.address workerAddress
  | sockaddr addr => builder.sockaddr addr
  | paramsFlags flags => builder.paramsFlags flags
  | errMode mode => builder.errMode mode
  | errHandler cb => builder.errHandler cb
  | errHandlerArg ptr => builder.errHandlerArg ptr
  | userData ptr => builder.userData ptr
  | name allocation bytes => (builder.name allocation bytes).getD builder

structure World where
  listeners : ListenerRef → ListenerState
  requests : List ConnRequest
  builders : List Ep.ParamsBuilder
  params : List Ep.Params
  log : List Event

namespace World

def initial : World where
  listeners := fun _ => ⟨.new ⟨0⟩, none⟩
  requests := []
  builders := []
  params := []
  log := []

def record (world : World) (calls : List Call) : World :=
  { world with log := (calls.map Event.called).reverse ++ world.log }

end World

/-- The steps name the values they use by their position. -/
inductive Label where
  | listener (state : ListenerRef) (data : ListenerState)
  | deliver (state : ListenerRef) (handle : ConnRequestPointer)
  | dropRequest (request : Nat)
  | newBuilder
  | set (builder : Nat) (setter : Setter)
  | setConnRequest (builder request : Nat)
  | build (builder : Nat)
  | dropBuilder (builder : Nat)
  | dropParams (params : Nat)
  | createEp (params : Nat) (worker : Worker) (oracle : Environment Call Answer)
  | newEp (params : Nat) (worker : Worker) (oracle : Environment Call Answer)
  | reject (listener : ListenerRef) (request : Nat) (oracle : Environment Call Answer)
  | rejectOwned (request : Nat) (oracle : Environment Call Answer)

/-- UCX delivers a handle that is not null, and delivers it again only once it
was consumed: each delivery then has its own consumption. -/
def step (world : World) : Label → Option World
  | .listener state data =>
      some { world with listeners := Function.update world.listeners state data }
  | .deliver state handle =>
      if handle.address ≠ 0 ∧
          deliveries handle world.log ≤ consumptions handle world.log then
        some { world with
          requests := ⟨handle, state⟩ :: world.requests
          log := .delivered handle :: world.log }
      else none
  | .dropRequest index => do
      let _ ← world.requests[index]?
      some { world with requests := world.requests.eraseIdx index }
  | .newBuilder => some { world with builders := world.builders ++ [Ep.ParamsBuilder.new] }
  | .set index setter => do
      let builder ← world.builders[index]?
      some { world with builders := world.builders.set index (setter.apply builder) }
  | .setConnRequest index requestIndex => do
      let builder ← world.builders[index]?
      let request ← world.requests[requestIndex]?
      some { world with
        requests := world.requests.eraseIdx requestIndex
        builders := world.builders.set index (builder.connRequest request) }
  | .build index => do
      let builder ← world.builders[index]?
      some { world with
        builders := world.builders.set index builder.build.2
        params := world.params ++ [builder.build.1] }
  | .dropBuilder index => do
      let _ ← world.builders[index]?
      some { world with builders := world.builders.eraseIdx index }
  | .dropParams index => do
      let _ ← world.params[index]?
      some { world with params := world.params.eraseIdx index }
  | .createEp index worker oracle => do
      let params ← world.params[index]?
      some ({ world with params := world.params.eraseIdx index }.record
        ((worker.createEp params).execute oracle []).calls)
  | .newEp index worker oracle => do
      let params ← world.params[index]?
      some ({ world with params := world.params.eraseIdx index }.record
        ((Ep.new params worker).execute oracle []).calls)
  | .reject listener index oracle => do
      let request ← world.requests[index]?
      some ({ world with requests := world.requests.eraseIdx index }.record
        (((world.listeners listener).reject request).execute oracle []).calls)
  | .rejectOwned index oracle => do
      let request ← world.requests[index]?
      some ({ world with requests := world.requests.eraseIdx index }.record
        (((world.listeners request.state).rejectOwned request).execute oracle []).calls)

/-- UCX consumes each handle at most as often as it delivered it, and never a
null one. -/
structure ConsumedAtMostOnce (log : List Event) : Prop where
  once : ∀ handle, consumptions handle log ≤ deliveries handle log
  nonNull : ∀ call, .called call ∈ log → ∀ handle, consumedRequest call = some handle →
    handle.address ≠ 0

/-- Parameters that an endpoint is created from own the request that they
advertise. -/
def OwnsAdvertised (world : World) : Label → Prop
  | .createEp index _ _ | .newEp index _ _ => ∀ params ∈ world.params[index]?,
      advertises params.handle = true → params.connRequest ≠ none
  | _ => True

instance (world : World) (label : Label) : Decidable (OwnsAdvertised world label) := by
  unfold OwnsAdvertised
  split <;> infer_instance

def owns (handle : ConnRequestPointer) : Option ConnRequest → Bool
  | some request => request.handle == handle
  | none => false

/-- How many requests, builders and parameters hold a handle. -/
def held (handle : ConnRequestPointer) (world : World) : Nat :=
  world.requests.countP (fun request => owns handle (some request)) +
    world.builders.countP (fun builder => owns handle builder.heldConnRequest) +
    world.params.countP (fun params => owns handle params.connRequest)

/-- Every handle that is still held was delivered and not consumed, and the raw
copies of an owned handle are that handle. -/
structure Accounted (world : World) : Prop where
  account : ∀ handle, held handle world + consumptions handle world.log ≤
    deliveries handle world.log
  delivered : ∀ handle, 0 < deliveries handle world.log → handle.address ≠ 0
  builders : ∀ builder ∈ world.builders, ∀ request, builder.heldConnRequest = some request →
    builder.uninitHandle.connRequest = request.handle
  params : ∀ params ∈ world.params, ∀ request, params.connRequest = some request →
    params.handle.connRequest = request.handle

variable {Value : Type} {list : List Value} {index : Nat} {value : Value}

/-- Taking a value out of a list. -/
theorem countP_eraseIdx_add (found : list[index]? = some value) (satisfies : Value → Bool) :
    (list.eraseIdx index).countP satisfies + (if satisfies value then 1 else 0) =
      list.countP satisfies := by
  obtain ⟨within, valueEq⟩ := List.getElem?_eq_some_iff.mp found
  rw [← (List.getElem_cons_eraseIdx_perm within).countP_eq satisfies, List.countP_cons,
    valueEq]

/-- Replacing a value in a list. -/
theorem countP_set_add (found : list[index]? = some value) (replacement : Value)
    (satisfies : Value → Bool) :
    (list.set index replacement).countP satisfies + (if satisfies value then 1 else 0) =
      list.countP satisfies + (if satisfies replacement then 1 else 0) := by
  obtain ⟨within, _⟩ := List.getElem?_eq_some_iff.mp found
  rw [(List.set_perm_cons_eraseIdx within replacement).countP_eq satisfies,
    List.countP_cons, ← countP_eraseIdx_add found satisfies]
  omega

variable {world next : World} {label : Label}

theorem deliveries_record (handle : ConnRequestPointer) (calls : List Call) :
    deliveries handle (world.record calls).log = deliveries handle world.log := by
  have none : ((calls.map Event.called).reverse).countP (Event.delivers handle) = 0 := by
    rw [List.countP_reverse, List.countP_map, List.countP_eq_zero]
    intro call _ delivers
    cases delivers
  unfold deliveries World.record
  rw [List.countP_append, none, Nat.zero_add]

theorem consumptions_record (handle : ConnRequestPointer) (calls : List Call) :
    consumptions handle (world.record calls).log =
      calls.countP (fun call => consumedRequest call == some handle) +
        consumptions handle world.log := by
  unfold consumptions World.record
  rw [List.countP_append, List.countP_reverse, List.countP_map]
  rfl

theorem called_mem_record {call : Call} {calls : List Call} :
    Event.called call ∈ (world.record calls).log ↔
      call ∈ calls ∨ Event.called call ∈ world.log := by
  unfold World.record
  rw [List.mem_append, List.mem_reverse, List.mem_map_of_injective fun _ _ => Event.called.inj]

/-- What holds along a run whose creations own what they advertise. -/
structure Orderly (world : World) : Prop where
  accounted : Accounted world
  nonNull : ∀ call, .called call ∈ world.log → ∀ handle, consumedRequest call = some handle →
    handle.address ≠ 0

theorem Orderly.consumedAtMostOnce (orderly : Orderly world) :
    ConsumedAtMostOnce world.log where
  once handle := by
    have account := orderly.accounted.account handle
    omega
  nonNull := orderly.nonNull

/-- A step that makes no calls keeps the account when nothing more is held. -/
theorem Orderly.silent (orderly : Orderly world)
    (logEq : next.log = world.log) (less : ∀ handle, held handle next ≤ held handle world)
    (builders : ∀ builder ∈ next.builders, ∀ request,
      builder.heldConnRequest = some request →
        builder.uninitHandle.connRequest = request.handle)
    (params : ∀ params ∈ next.params, ∀ request, params.connRequest = some request →
      params.handle.connRequest = request.handle) : Orderly next := by
  refine ⟨⟨fun handle => ?_, ?_, builders, params⟩, ?_⟩
  · have account := orderly.accounted.account handle
    have fewer := less handle
    rw [logEq]
    omega
  · rw [logEq]
    exact orderly.accounted.delivered
  · rw [logEq]
    exact orderly.nonNull

/-- A step that consumes a value: its calls consume at most the handle that the
value owned. -/
theorem Orderly.spend (orderly : Orderly world) {rest : World} {calls : List Call}
    (holder : Option ConnRequest) (restLog : rest.log = world.log)
    (released : ∀ handle, held handle rest + (if owns handle holder then 1 else 0) =
      held handle world)
    (spends : ∀ handle, calls.countP (fun call => consumedRequest call == some handle) ≤
      if owns handle holder then 1 else 0)
    (builders : rest.builders = world.builders)
    (params : ∀ params ∈ rest.params, params ∈ world.params) :
    Orderly (rest.record calls) := by
  refine ⟨⟨fun handle => ?_, fun handle => ?_, ?_, ?_⟩, ?_⟩
  · have account := orderly.accounted.account handle
    have taken := released handle
    have spent := spends handle
    have kept : held handle (rest.record calls) = held handle rest := rfl
    rw [deliveries_record, consumptions_record, restLog, kept]
    omega
  · rw [deliveries_record, restLog]
    exact orderly.accounted.delivered handle
  · intro builder member
    exact orderly.accounted.builders builder (builders ▸ member)
  · intro built member
    exact orderly.accounted.params built (params built member)
  · intro call member handle consumed
    rcases called_mem_record.mp member with inCalls | before
    · -- the value owned the handle, so a callback delivered it
      have spent := spends handle
      have positive : 0 < calls.countP (fun call => consumedRequest call == some handle) :=
        List.countP_pos_iff.mpr ⟨call, inCalls, beq_iff_eq.mpr consumed⟩
      have taken := released handle
      have account := orderly.accounted.account handle
      exact orderly.accounted.delivered handle (by omega)
    · exact orderly.nonNull call (restLog ▸ before) handle consumed

@[simp]
theorem Setter.apply_heldConnRequest (builder : Ep.ParamsBuilder) (setter : Setter) :
    (setter.apply builder).heldConnRequest = builder.heldConnRequest := by
  cases setter with
  | name allocation bytes =>
      change ((builder.name allocation bytes).getD builder).heldConnRequest = _
      unfold Ep.ParamsBuilder.name
      cases CString.new allocation bytes <;> rfl
  | _ => rfl

@[simp]
theorem Setter.apply_connRequest (builder : Ep.ParamsBuilder) (setter : Setter) :
    (setter.apply builder).uninitHandle.connRequest = builder.uninitHandle.connRequest := by
  cases setter with
  | name allocation bytes =>
      change ((builder.name allocation bytes).getD builder).uninitHandle.connRequest = _
      unfold Ep.ParamsBuilder.name
      cases CString.new allocation bytes <;> rfl
  | _ => rfl

/-- The builders after one of them was replaced. -/
theorem Accounted.set_builder (accounted : Accounted world) {index : Nat}
    {replacement : Ep.ParamsBuilder}
    (raw : ∀ request, replacement.heldConnRequest = some request →
      replacement.uninitHandle.connRequest = request.handle) :
    ∀ builder ∈ world.builders.set index replacement, ∀ request,
      builder.heldConnRequest = some request →
        builder.uninitHandle.connRequest = request.handle := by
  intro builder member
  rcases List.mem_or_eq_of_mem_set member with before | rfl
  · exact accounted.builders builder before
  · exact raw

theorem createEp_calls (params : Ep.Params) (worker : Worker)
    (oracle : Environment Call Answer) :
    ((worker.createEp params).execute oracle []).calls =
      [.ucpEpCreate worker.handle
        { params.handle with connRequest := params.connRequestPtr }] :=
  congrArg Interaction.Execution.calls (execute_issue_done _ _)

theorem newEp_calls (params : Ep.Params) (worker : Worker)
    (oracle : Environment Call Answer) :
    ((Ep.new params worker).execute oracle []).calls =
      [.ucpEpCreate worker.handle params.handle] :=
  congrArg Interaction.Execution.calls (execute_issue_done _ _)

theorem reject_calls (state : ListenerState) (request : ConnRequest)
    (oracle : Environment Call Answer) :
    ((state.reject request).execute oracle []).calls =
      [.ucpListenerReject state.asRaw request.handle] :=
  congrArg Interaction.Execution.calls (execute_issue_done _ _)

/-- `reject_owned` makes the same call, or none. -/
theorem rejectOwned_calls (state : ListenerState) (request : ConnRequest)
    (oracle : Environment Call Answer) :
    ((state.rejectOwned request).execute oracle []).calls = [] ∨
      ∃ listener, ((state.rejectOwned request).execute oracle []).calls =
        [.ucpListenerReject listener request.handle] := by
  unfold ListenerState.rejectOwned
  cases state.handle.lock with
  | error poisoned => exact Or.inl rfl
  | ok listener =>
      by_cases null : listener.address = 0
      · simp only [if_pos null]
        exact Or.inl rfl
      · simp only [if_neg null]
        exact Or.inr ⟨listener, congrArg Interaction.Execution.calls (execute_issue_done _ _)⟩

/-- A call that consumes nothing but the handle of an owned request. -/
theorem spends_one {call : Call} {holder : Option ConnRequest}
    (owned : ∀ handle, consumedRequest call = some handle → owns handle holder = true)
    (handle : ConnRequestPointer) :
    [call].countP (fun call => consumedRequest call == some handle) ≤
      if owns handle holder then 1 else 0 := by
  rw [List.countP_singleton]
  by_cases consumed : consumedRequest call = some handle
  · rw [if_pos (owned handle consumed), if_pos (beq_iff_eq.mpr consumed)]
  · have different : (consumedRequest call == some handle) = false := by
      rwa [beq_eq_false_iff_ne]
    rw [different]
    exact Nat.zero_le _

theorem consumedRequest_ucpEpCreate {worker : WorkerHandle} {params : UcpEpParams}
    {handle : ConnRequestPointer}
    (consumed : consumedRequest (.ucpEpCreate worker params) = some handle) :
    advertises params = true ∧ params.connRequest = handle := by
  obtain ⟨advertised, same⟩ := Option.ite_none_right_eq_some.mp consumed
  exact ⟨advertised, Option.some.inj same⟩

/-- The parameters that an endpoint is created from are gone with it. -/
theorem Orderly.spendParams (orderly : Orderly world) {index : Nat} {params : Ep.Params}
    (paramsAt : world.params[index]? = some params) {call : Call}
    (owned : ∀ handle, consumedRequest call = some handle →
      owns handle params.connRequest = true) :
    Orderly ({ world with params := world.params.eraseIdx index }.record [call]) := by
  refine orderly.spend params.connRequest rfl (fun handle => ?_) (spends_one owned) rfl ?_
  · have taken := countP_eraseIdx_add paramsAt fun params => owns handle params.connRequest
    simp only [held]
    omega
  · exact fun _ member => List.mem_of_mem_eraseIdx member

/-- A request that is given up is gone, and so is its handle. -/
theorem Orderly.spendRequest (orderly : Orderly world) {index : Nat} {request : ConnRequest}
    (requestAt : world.requests[index]? = some request) {calls : List Call}
    (rejects : calls = [] ∨
      ∃ listener, calls = [.ucpListenerReject listener request.handle]) :
    Orderly ({ world with requests := world.requests.eraseIdx index }.record calls) := by
  refine orderly.spend (some request) rfl (fun handle => ?_) (fun handle => ?_) rfl
    (fun _ member => member)
  · have taken := countP_eraseIdx_add requestAt fun request => owns handle (some request)
    simp only [held]
    omega
  · rcases rejects with rfl | ⟨listener, rfl⟩
    · exact Nat.zero_le _
    · refine spends_one (fun consumed consumedEq => ?_) handle
      exact beq_iff_eq.mpr (Option.some.inj consumedEq)

theorem deliveries_delivered (handle other : ConnRequestPointer) :
    deliveries other (.delivered handle :: world.log) =
      deliveries other world.log + if handle == other then 1 else 0 :=
  List.countP_cons

theorem consumptions_delivered (handle other : ConnRequestPointer) :
    consumptions other (.delivered handle :: world.log) = consumptions other world.log :=
  List.countP_cons_of_neg Bool.false_ne_true

theorem Orderly.deliver (orderly : Orderly world) (state : ListenerRef)
    {handle : ConnRequestPointer} (nonNull : handle.address ≠ 0) :
    Orderly { world with
      requests := ⟨handle, state⟩ :: world.requests
      log := .delivered handle :: world.log } := by
  refine ⟨⟨fun other => ?_, fun other positive => ?_, orderly.accounted.builders,
    orderly.accounted.params⟩, fun call member => ?_⟩
  · have account := orderly.accounted.account other
    have oneMore := @deliveries_delivered world handle other
    have nothing := @consumptions_delivered world handle other
    have holds : (⟨handle, state⟩ :: world.requests).countP
        (fun request => owns other (some request)) =
        world.requests.countP (fun request => owns other (some request)) +
          if handle == other then 1 else 0 := List.countP_cons
    simp only [held] at account ⊢
    omega
  · by_cases same : handle = other
    · exact same ▸ nonNull
    · refine orderly.accounted.delivered other ?_
      rw [deliveries_delivered, if_neg (by rwa [beq_iff_eq])] at positive
      exact positive
  · rcases List.mem_cons.mp member with isDelivery | before
    · cases isDelivery
    · exact orderly.nonNull call before

theorem Orderly.set (orderly : Orderly world) {index : Nat} {builder : Ep.ParamsBuilder}
    (builderAt : world.builders[index]? = some builder) (setter : Setter) :
    Orderly { world with builders := world.builders.set index (setter.apply builder) } := by
  refine orderly.silent rfl (fun handle => ?_) ?_ orderly.accounted.params
  · have replaced := countP_set_add builderAt (setter.apply builder)
      fun builder => owns handle builder.heldConnRequest
    simp only [Setter.apply_heldConnRequest] at replaced
    simp only [held]
    omega
  · refine orderly.accounted.set_builder fun request holds => ?_
    rw [Setter.apply_heldConnRequest] at holds
    rw [Setter.apply_connRequest]
    exact orderly.accounted.builders builder (List.mem_of_getElem? builderAt) request holds

/-- The request moves into the builder, which drops the one it held. -/
theorem Orderly.setConnRequest (orderly : Orderly world) {index requestIndex : Nat}
    {builder : Ep.ParamsBuilder} {request : ConnRequest}
    (builderAt : world.builders[index]? = some builder)
    (requestAt : world.requests[requestIndex]? = some request) :
    Orderly { world with
      requests := world.requests.eraseIdx requestIndex
      builders := world.builders.set index (builder.connRequest request) } := by
  refine orderly.silent rfl (fun handle => ?_) ?_ orderly.accounted.params
  · have taken := countP_eraseIdx_add requestAt fun request => owns handle (some request)
    have replaced := countP_set_add builderAt (builder.connRequest request)
      fun builder => owns handle builder.heldConnRequest
    change _ = _ + (if owns handle (some request) then 1 else 0) at replaced
    simp only [held]
    omega
  · refine orderly.accounted.set_builder fun held holds => ?_
    cases holds
    rfl

/-- The request moves into the parameters; the builder that is left holds none. -/
theorem Orderly.build (orderly : Orderly world) {index : Nat} {builder : Ep.ParamsBuilder}
    (builderAt : world.builders[index]? = some builder) :
    Orderly { world with
      builders := world.builders.set index builder.build.2
      params := world.params ++ [builder.build.1] } := by
  refine orderly.silent rfl (fun handle => ?_) ?_ ?_
  · have replaced := countP_set_add builderAt builder.build.2
      fun builder => owns handle builder.heldConnRequest
    rw [Ep.ParamsBuilder.build_left_heldConnRequest,
      show owns handle none = false from rfl, if_neg Bool.false_ne_true] at replaced
    simp only [held, List.countP_append, List.countP_singleton,
      Ep.ParamsBuilder.build_connRequest]
    omega
  · refine orderly.accounted.set_builder fun request holds => ?_
    rw [Ep.ParamsBuilder.build_left_heldConnRequest] at holds
    cases holds
  · intro params member request holds
    rcases List.mem_append.mp member with before | new
    · exact orderly.accounted.params params before request holds
    · cases List.mem_singleton.mp new
      rw [Ep.ParamsBuilder.build_connRequest] at holds
      rw [Ep.ParamsBuilder.build_handle_connRequest]
      exact orderly.accounted.builders builder (List.mem_of_getElem? builderAt) request holds

/-- `create_ep` passes the handle of the request that the parameters own. -/
theorem Orderly.createEp (orderly : Orderly world) {index : Nat} {params : Ep.Params}
    (paramsAt : world.params[index]? = some params) (worker : Worker)
    (owned : advertises params.handle = true → params.connRequest ≠ none) :
    Orderly ({ world with params := world.params.eraseIdx index }.record
      [.ucpEpCreate worker.handle
        { params.handle with connRequest := params.connRequestPtr }]) := by
  refine orderly.spendParams paramsAt fun handle consumed => ?_
  obtain ⟨advertised, passed⟩ := consumedRequest_ucpEpCreate consumed
  obtain ⟨request, holds⟩ := Option.ne_none_iff_exists'.mp (owned advertised)
  have pointer : params.connRequestPtr = request.handle := by
    unfold Ep.Params.connRequestPtr
    rw [holds]
  rw [holds]
  exact beq_iff_eq.mpr (pointer.symm.trans passed)

/-- `Ep::new` passes the raw copy, which is the handle of the owned request. -/
theorem Orderly.newEp (orderly : Orderly world) {index : Nat} {params : Ep.Params}
    (paramsAt : world.params[index]? = some params) (worker : Worker)
    (owned : advertises params.handle = true → params.connRequest ≠ none) :
    Orderly ({ world with params := world.params.eraseIdx index }.record
      [.ucpEpCreate worker.handle params.handle]) := by
  refine orderly.spendParams paramsAt fun handle consumed => ?_
  obtain ⟨advertised, passed⟩ := consumedRequest_ucpEpCreate consumed
  obtain ⟨request, holds⟩ := Option.ne_none_iff_exists'.mp (owned advertised)
  have raw := orderly.accounted.params params (List.mem_of_getElem? paramsAt) request holds
  rw [holds]
  exact beq_iff_eq.mpr (raw.symm.trans passed)

theorem Orderly.step (orderly : Orderly world)
    (advertisedOwned : OwnsAdvertised world label)
    (stepEq : step world label = some next) : Orderly next := by
  cases label with
  | listener state data =>
      cases stepEq
      exact orderly.silent rfl (fun _ => Nat.le_refl _) orderly.accounted.builders
        orderly.accounted.params
  | deliver state handle =>
      obtain ⟨⟨nonNull, _⟩, nextEq⟩ := Option.ite_none_right_eq_some.mp stepEq
      cases nextEq
      exact orderly.deliver state nonNull
  | dropRequest index =>
      obtain ⟨request, requestAt, nextEq⟩ := Option.bind_eq_some_iff.mp stepEq
      cases nextEq
      exact orderly.spendRequest requestAt (Or.inl rfl)
  | newBuilder =>
      cases stepEq
      refine orderly.silent rfl (fun handle => ?_) ?_ orderly.accounted.params
      · simp only [held, List.countP_append]
        exact Nat.le_refl _
      · intro builder member request holds
        rcases List.mem_append.mp member with before | new
        · exact orderly.accounted.builders builder before request holds
        · cases List.mem_singleton.mp new
          cases holds
  | set index setter =>
      obtain ⟨builder, builderAt, nextEq⟩ := Option.bind_eq_some_iff.mp stepEq
      cases nextEq
      exact orderly.set builderAt setter
  | setConnRequest index requestIndex =>
      obtain ⟨builder, builderAt, restEq⟩ := Option.bind_eq_some_iff.mp stepEq
      obtain ⟨request, requestAt, nextEq⟩ := Option.bind_eq_some_iff.mp restEq
      cases nextEq
      exact orderly.setConnRequest builderAt requestAt
  | build index =>
      obtain ⟨builder, builderAt, nextEq⟩ := Option.bind_eq_some_iff.mp stepEq
      cases nextEq
      exact orderly.build builderAt
  | dropBuilder index =>
      obtain ⟨builder, builderAt, nextEq⟩ := Option.bind_eq_some_iff.mp stepEq
      cases nextEq
      refine orderly.silent rfl (fun handle => ?_)
        (fun builder member => orderly.accounted.builders builder
          (List.mem_of_mem_eraseIdx member)) orderly.accounted.params
      have taken := countP_eraseIdx_add builderAt fun builder =>
        owns handle builder.heldConnRequest
      simp only [held]
      omega
  | dropParams index =>
      obtain ⟨params, paramsAt, nextEq⟩ := Option.bind_eq_some_iff.mp stepEq
      cases nextEq
      refine orderly.silent rfl (fun handle => ?_) orderly.accounted.builders
        (fun params member => orderly.accounted.params params
          (List.mem_of_mem_eraseIdx member))
      have taken := countP_eraseIdx_add paramsAt fun params =>
        owns handle params.connRequest
      simp only [held]
      omega
  | createEp index worker oracle =>
      obtain ⟨params, paramsAt, nextEq⟩ := Option.bind_eq_some_iff.mp stepEq
      cases nextEq
      rw [createEp_calls]
      exact orderly.createEp paramsAt worker (advertisedOwned params paramsAt)
  | newEp index worker oracle =>
      obtain ⟨params, paramsAt, nextEq⟩ := Option.bind_eq_some_iff.mp stepEq
      cases nextEq
      rw [newEp_calls]
      exact orderly.newEp paramsAt worker (advertisedOwned params paramsAt)
  | reject listener index oracle =>
      obtain ⟨request, requestAt, nextEq⟩ := Option.bind_eq_some_iff.mp stepEq
      cases nextEq
      rw [reject_calls]
      exact orderly.spendRequest requestAt (Or.inr ⟨_, rfl⟩)
  | rejectOwned index oracle =>
      obtain ⟨request, requestAt, nextEq⟩ := Option.bind_eq_some_iff.mp stepEq
      cases nextEq
      exact orderly.spendRequest requestAt (rejectOwned_calls _ request oracle)

theorem Orderly.initial : Orderly World.initial where
  accounted :=
    { account := fun _ => Nat.le_refl 0
      delivered := fun _ positive => absurd positive (Nat.lt_irrefl 0)
      builders := fun _ member => absurd member List.not_mem_nil
      params := fun _ member => absurd member List.not_mem_nil }
  nonNull := fun _ member => absurd member List.not_mem_nil

/-- The requests are consumed at most once, and never a null one, along every
run whose endpoints are created from parameters that own the request they
advertise. -/
theorem consumed_at_most_once (run : List Label)
    (owned : EveryStep step (fun world label _ => OwnsAdvertised world label)
      World.initial run) :
    EveryStep step (fun _ _ next => ConsumedAtMostOnce next.log) World.initial run := by
  refine everyStep_of_guarded_invariant ?_ ?_ owned Orderly.initial
  · intro world label next orderly advertisedOwned stepEq
    exact orderly.step advertisedOwned stepEq
  · intro world label next orderly
    exact orderly.consumedAtMostOnce

/-- UCX creates every endpoint. -/
def accepting : Environment Call Answer :=
  fun _ call =>
    match call with
    | .ucpEpCreate _ _ => some (.ok, ⟨0x3000⟩)
    | _ => none

/-- A request goes through a builder into an endpoint. -/
def accept : List Label :=
  [.deliver ⟨0⟩ ⟨0x4000⟩,
    .newBuilder,
    .setConnRequest 0 0,
    .build 0,
    .createEp 0 ⟨⟨0x1000⟩, ⟨0⟩⟩ accepting]

theorem accept_consumes_once :
    EveryStep step (fun _ _ next => ConsumedAtMostOnce next.log) World.initial accept :=
  consumed_at_most_once accept (by decide)

/-- `create_ep` on parameters that advertise a request without owning one
passes a null handle to UCX. -/
theorem createEp_unowned_breaks {index : Nat} {worker : Worker}
    {oracle : Environment Call Answer}
    (unowned : ¬ OwnsAdvertised world (.createEp index worker oracle))
    (stepEq : step world (.createEp index worker oracle) = some next) :
    ¬ ConsumedAtMostOnce next.log := by
  intro consumed
  obtain ⟨params, paramsAt, nextEq⟩ := Option.bind_eq_some_iff.mp stepEq
  cases nextEq
  refine unowned fun other otherAt advertised absent => ?_
  cases paramsAt.symm.trans otherAt
  have pointer : params.connRequestPtr = ⟨0⟩ := by
    unfold Ep.Params.connRequestPtr
    rw [absent]
  have issued := createEp_calls params worker oracle ▸ List.mem_singleton_self _
  refine consumed.nonNull _ (called_mem_record.mpr (Or.inl issued)) ⟨0⟩ ?_ rfl
  rw [pointer]
  exact if_pos advertised

/-- One request, and two parameters from one builder. -/
def buildTwice : List Label :=
  [.deliver ⟨0⟩ ⟨0x4000⟩,
    .newBuilder,
    .setConnRequest 0 0,
    .build 0,
    .build 0]

/-- `Ep::new` on both consumes the request twice, and `create_ep` on the second
advertises a null handle. -/
theorem second_build_breaks :
    ¬ EveryStep step (fun _ _ next => ConsumedAtMostOnce next.log) World.initial
        (buildTwice ++ [.newEp 0 ⟨⟨0x1000⟩, ⟨0⟩⟩ accepting,
          .newEp 0 ⟨⟨0x1000⟩, ⟨0⟩⟩ accepting]) ∧
      ¬ EveryStep step (fun _ _ next => ConsumedAtMostOnce next.log) World.initial
        (buildTwice ++ [.createEp 1 ⟨⟨0x1000⟩, ⟨0⟩⟩ accepting]) := by
  refine ⟨fun every => ?_, fun every => ?_⟩
  · obtain ⟨consumed, _⟩ :=
      ((((((every _ rfl).2 _ rfl).2 _ rfl).2 _ rfl).2 _ rfl).2 _ rfl).2 _ rfl
    have once := consumed.once ⟨0x4000⟩
    exact absurd once (by decide)
  · obtain ⟨consumed, _⟩ := (((((every _ rfl).2 _ rfl).2 _ rfl).2 _ rfl).2 _ rfl).2 _ rfl
    exact consumed.nonNull _ List.mem_cons_self ⟨0⟩ (by decide) rfl

end ConnRequestConsumption

end UcxRs
