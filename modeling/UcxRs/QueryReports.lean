import UcxRs.AttributeQueries

/-!
# What queries report

UCX writes exactly the selected fields of an attribute block and leaves the rest
as it was.  Then the queries of workers and endpoints report what UCX holds, and
those of listeners and connection requests do unless an IPv6 address has a flow
label or a scope, which the conversion drops.  The query of a memory handle
selects no field, so it reports a null address, no length and host memory,
whatever the region is.
-/

namespace UcxRs

namespace QueryReports

open Interaction (Environment Program)
open Interaction.Program

/-- The attributes of the objects of UCX. -/
structure UcxObjects where
  worker : WorkerHandle → UcpWorkerAttr
  ep : EpHandle → UcpEpAttr
  listener : ListenerHandle → UcpListenerAttr
  connRequest : ConnRequestPointer → UcpConnRequestAttr
  mem : MemPointer → UcpMemAttr

namespace UcpMemAttrField

def address : BitVec 64 := 1
def length : BitVec 64 := 2
def memType : BitVec 64 := 4

end UcpMemAttrField

/-- A field of a block after a query: written if it was selected. -/
def fill {Value : Type} (mask field : BitVec 64) (actual untouched : Value) : Value :=
  if mask &&& field ≠ 0 then actual else untouched

def fillWorker (attr actual : UcpWorkerAttr) : UcpWorkerAttr where
  fieldMask := attr.fieldMask
  threadMode :=
    fill attr.fieldMask WorkerAttrFields.threadMode actual.threadMode attr.threadMode
  addressFlags :=
    fill attr.fieldMask WorkerAttrFields.addressFlags actual.addressFlags attr.addressFlags
  address := fill attr.fieldMask WorkerAttrFields.address actual.address attr.address
  addressLength :=
    fill attr.fieldMask WorkerAttrFields.address actual.addressLength attr.addressLength
  maxAmHeader :=
    fill attr.fieldMask WorkerAttrFields.maxAmHeader actual.maxAmHeader attr.maxAmHeader
  name := fill attr.fieldMask WorkerAttrFields.name actual.name attr.name
  maxDebugString :=
    fill attr.fieldMask WorkerAttrFields.maxInfoString actual.maxDebugString
      attr.maxDebugString

def fillEp (attr actual : UcpEpAttr) : UcpEpAttr where
  fieldMask := attr.fieldMask
  name := fill attr.fieldMask EpAttrFields.name actual.name attr.name
  localSockaddr :=
    fill attr.fieldMask EpAttrFields.localSockaddr actual.localSockaddr attr.localSockaddr
  remoteSockaddr :=
    fill attr.fieldMask EpAttrFields.remoteSockaddr actual.remoteSockaddr attr.remoteSockaddr
  transports :=
    fill attr.fieldMask EpAttrFields.transports actual.transports attr.transports
  userData := fill attr.fieldMask EpAttrFields.userData actual.userData attr.userData

def fillListener (attr actual : UcpListenerAttr) : UcpListenerAttr where
  fieldMask := attr.fieldMask
  sockaddr := fill attr.fieldMask UcpListenerAttrField.sockaddr actual.sockaddr attr.sockaddr

def fillConnRequest (attr actual : UcpConnRequestAttr) : UcpConnRequestAttr where
  fieldMask := attr.fieldMask
  clientAddress :=
    fill attr.fieldMask ConnRequestFields.clientAddr actual.clientAddress attr.clientAddress
  clientId := fill attr.fieldMask ConnRequestFields.clientId actual.clientId attr.clientId

def fillMem (attr actual : UcpMemAttr) : UcpMemAttr where
  fieldMask := attr.fieldMask
  address := fill attr.fieldMask UcpMemAttrField.address actual.address attr.address
  length := fill attr.fieldMask UcpMemAttrField.length actual.length attr.length
  memType := fill attr.fieldMask UcpMemAttrField.memType actual.memType attr.memType

/-- UCX answers queries with a status and the selected attributes. -/
def querying (objects : UcxObjects) (status : UcsStatus) : Environment Call Answer :=
  fun _ call =>
    match call with
    | .ucpWorkerQuery worker attr => some (status, fillWorker attr (objects.worker worker))
    | .ucpEpQuery ep attr => some (status, fillEp attr (objects.ep ep))
    | .ucpListenerQuery listener attr =>
        some (status, fillListener attr (objects.listener listener))
    | .ucpConnRequestQuery request attr =>
        some (status, fillConnRequest attr (objects.connRequest request))
    | .ucpMemQuery memh attr => some (status, fillMem attr (objects.mem memh))
    | _ => none

/-- The socket address in a storage. -/
def socketAddrOf (storage : SockaddrStorage) : Option SocketAddr :=
  if storage.ssFamily = afInet then
    some (.v4 (storage.bytesAt 4 4) storage.port)
  else if storage.ssFamily = afInet6 then
    some (.v6 (storage.bytesAt 8 16) storage.port
      (storage.byteAt 4 ++ storage.byteAt 5 ++ storage.byteAt 6 ++ storage.byteAt 7)
      (storage.byteAt 27 ++ storage.byteAt 26 ++ storage.byteAt 25 ++ storage.byteAt 24))
  else none

/-- The address has no flow label and no scope, as those of IPv4. -/
def Unscoped : SocketAddr → Prop
  | .v4 _ _ => True
  | .v6 _ _ flowinfo scopeId => flowinfo = 0 ∧ scopeId = 0

/-- What is presented is UCX's value, and nothing is presented unrequested. -/
structure Reports {Value : Type} (requested : Prop) (presented : Option Value)
    (actual : Value) : Prop where
  faithful : ∀ value, presented = some value → value = actual
  absent : ¬ requested → presented = none

/-- The same for an attribute that UCX's value may not have. -/
structure ReportsPartial {Value : Type} (requested : Prop) (presented actual : Option Value) :
    Prop where
  faithful : ∀ value, presented = some value → actual = some value
  absent : ¬ requested → presented = none

structure WorkerReports (mask : BitVec 64) (actual : UcpWorkerAttr) (attr : WorkerAttr) :
    Prop where
  threadMode : Reports (mask &&& WorkerAttrFields.threadMode ≠ 0) attr.threadMode
    (.fromFfi actual.threadMode)
  address : Reports (mask &&& WorkerAttrFields.address ≠ 0) attr.address
    ⟨actual.address, actual.addressLength⟩
  addressFlags : Reports (mask &&& WorkerAttrFields.addressFlags ≠ 0) attr.addressFlags
    actual.addressFlags
  maxAmHeader : Reports (mask &&& WorkerAttrFields.maxAmHeader ≠ 0) attr.maxAmHeader
    actual.maxAmHeader
  name : Reports (mask &&& WorkerAttrFields.name ≠ 0) attr.name (cStringLossy actual.name)
  maxInfoString : Reports (mask &&& WorkerAttrFields.maxInfoString ≠ 0) attr.maxInfoString
    actual.maxDebugString

structure EpReports (mask : BitVec 64) (actual : UcpEpAttr) (attr : EpAttr) : Prop where
  name : mask &&& EpAttrFields.name ≠ 0 → attr.name = cStringLossy actual.name
  noName : ¬ mask &&& EpAttrFields.name ≠ 0 → attr.name = ""
  localSockaddr : Reports (mask &&& EpAttrFields.localSockaddr ≠ 0) attr.localSockaddr
    ⟨actual.localSockaddr⟩
  remoteSockaddr : Reports (mask &&& EpAttrFields.remoteSockaddr ≠ 0) attr.remoteSockaddr
    ⟨actual.remoteSockaddr⟩
  transports : Reports (mask &&& EpAttrFields.transports ≠ 0) attr.transports
    ⟨actual.transports⟩
  userData : Reports (mask &&& EpAttrFields.userData ≠ 0) attr.userData actual.userData

/-- The query of a listener takes no mask. -/
structure ListenerReports (actual : UcpListenerAttr) (attr : ListenerAttr) : Prop where
  sockaddr : attr.sockaddr = ⟨actual.sockaddr⟩
  socketAddr : ReportsPartial True attr.socketAddr (socketAddrOf actual.sockaddr)

structure ConnRequestReports (fields : BitVec 64) (actual : UcpConnRequestAttr)
    (attr : ConnRequestAttr) : Prop where
  clientAddress : ReportsPartial (fields &&& ConnRequestFields.clientAddr ≠ 0)
    attr.clientAddress (socketAddrOf actual.clientAddress)
  clientId : Reports (fields &&& ConnRequestFields.clientId ≠ 0) attr.clientId actual.clientId

/-- The query of a memory handle presents all three attributes. -/
structure MemReports (actual : UcpMemAttr) (attr : MemAttr) : Prop where
  address : attr.address = actual.address
  length : attr.length = actual.length
  memType : attr.memType = .fromFfi actual.memType

/-- What a successful query presents satisfies `good`. -/
def Presents {Attr : Type} (objects : UcxObjects) (status : UcsStatus)
    (program : Ffi (Except Status Attr)) (good : Attr → Prop) : Prop :=
  ∀ attr, (program.execute (querying objects status) []).result = some (.ok attr) → good attr

theorem ne_zero_of_containsFlags {mask field : BitVec 64} (nonzero : field ≠ 0)
    (contains : containsFlags mask field = true) : mask &&& field ≠ 0 := by
  have same : mask &&& field = field := by
    simpa only [containsFlags, beq_iff_eq] using contains
  rw [same]
  exact nonzero

theorem containsFlags_one {mask : BitVec 64} (selected : mask &&& 1#64 ≠ 0) :
    containsFlags mask 1#64 = true := by
  rw [containsFlags, beq_iff_eq]
  rw [BitVec.and_one_eq_setWidth_ofBool_getLsbD] at selected ⊢
  cases bit : mask.getLsbD 0 with
  | false =>
      rw [bit] at selected
      exact absurd (by decide) selected
  | true => rfl

theorem fill_of_containsFlags {Value : Type} {mask field : BitVec 64} (nonzero : field ≠ 0)
    (contains : containsFlags mask field = true) (actual untouched : Value) :
    fill mask field actual untouched = actual :=
  if_pos (ne_zero_of_containsFlags nonzero contains)

theorem reports_whenSelected {Value : Type} {mask field : BitVec 64} (nonzero : field ≠ 0)
    {read actual : Value} (same : containsFlags mask field = true → read = actual) :
    Reports (mask &&& field ≠ 0) (whenSelected mask field read) actual := by
  constructor
  · intro value presented
    obtain ⟨contains, read_eq⟩ := Option.ite_none_right_eq_some.mp presented
    exact (Option.some.inj read_eq).symm.trans (same contains)
  · intro unselected
    refine if_neg fun contains => unselected ?_
    exact ne_zero_of_containsFlags nonzero contains

/-- A field is presented as it is read from what UCX wrote. -/
theorem reports_fill {Value Shown : Type} {mask field : BitVec 64} (nonzero : field ≠ 0)
    (show' : Value → Shown) (actual untouched : Value) :
    Reports (mask &&& field ≠ 0)
      (whenSelected mask field (show' (fill mask field actual untouched)))
      (show' actual) := by
  apply reports_whenSelected nonzero
  intro contains
  rw [fill_of_containsFlags nonzero contains]

section Queries

variable {objects : UcxObjects} {status : UcsStatus}

theorem presents_iff {Attr : Type} {program : Ffi (Except Status Attr)} {attr : Attr}
    {good : Attr → Prop}
    (executed : (program.execute (querying objects status) []).result =
      some ((statusToResult status).map fun _ => attr)) :
    Presents objects status program good ↔ (statusToResult status = .ok () → good attr) := by
  unfold Presents
  rw [executed]
  cases statusToResult status with
  | error error => simp [Except.map]
  | ok success => simp [Except.map]

theorem worker_query_reports (worker : Worker) (mask : BitVec 64) :
    Presents objects status (worker.query mask)
      (WorkerReports mask (objects.worker worker.handle)) := by
  refine (presents_iff rfl).mpr fun _ => ?_
  constructor
  case address =>
    apply reports_whenSelected (by decide)
    intro contains
    simp only [fillWorker]
    rw [fill_of_containsFlags (by decide) contains,
      fill_of_containsFlags (by decide) contains]
  case threadMode => exact reports_fill (by decide) ThreadMode.fromFfi _ _
  case addressFlags => exact reports_fill (by decide) id _ _
  case maxAmHeader => exact reports_fill (by decide) id _ _
  case name => exact reports_fill (by decide) cStringLossy _ _
  case maxInfoString => exact reports_fill (by decide) id _ _

theorem ep_query_reports (ep : Ep) (mask : BitVec 64) :
    Presents objects status (ep.query mask) (EpReports mask (objects.ep ep.handle)) := by
  refine (presents_iff rfl).mpr fun _ => ?_
  constructor
  case name =>
    intro selected
    change (if containsFlags mask EpAttrFields.name then
      cStringLossy (fill mask EpAttrFields.name _ _) else "") = _
    have contains : containsFlags mask EpAttrFields.name = true := containsFlags_one selected
    rw [if_pos contains, fill_of_containsFlags (by decide) contains]
  case noName =>
    intro unselected
    exact if_neg fun contains => unselected (ne_zero_of_containsFlags (by decide) contains)
  case localSockaddr => exact reports_fill (by decide) SockAddrStorage.mk _ _
  case remoteSockaddr => exact reports_fill (by decide) SockAddrStorage.mk _ _
  case transports => exact reports_fill (by decide) Transports.mk _ _
  case userData => exact reports_fill (by decide) id _ _

/-- A name of UCX that is UTF-8 is shown as it is. -/
theorem worker_query_shows_name {worker : Worker} {mask : BitVec 64} {name : String}
    (holds : HoldsName (objects.worker worker.handle).name name) :
    Presents objects status (worker.query mask) fun attr =>
      ∀ shown, attr.name = some shown → shown = name := by
  intro attr presented shown isShown
  rw [← holds.cStringLossy_eq]
  exact (worker_query_reports worker mask attr presented).name.faithful shown isShown

theorem ep_query_shows_name {ep : Ep} {mask : BitVec 64} {name : String}
    (holds : HoldsName (objects.ep ep.handle).name name) :
    Presents objects status (ep.query mask) fun attr =>
      mask &&& EpAttrFields.name ≠ 0 → attr.name = name := by
  intro attr presented requested
  rw [← holds.cStringLossy_eq]
  exact (ep_query_reports ep mask attr presented).name requested

theorem fromStorage_faithful_iff (storage : SockaddrStorage) :
    (∀ address, fromStorage storage = some address → socketAddrOf storage = some address) ↔
      ∀ address, socketAddrOf storage = some address → Unscoped address := by
  unfold fromStorage socketAddrOf
  split_ifs with isV4 isV6
  · simp [SocketAddr.new, Unscoped]
  · constructor
    · intro faithful address found
      have same := faithful _ rfl
      rw [same] at found
      cases found
      exact ⟨rfl, rfl⟩
    · intro unscoped address found
      obtain ⟨flow, scope⟩ := unscoped _ rfl
      rw [← found, flow, scope]
      rfl
  · simp

theorem listener_query_reports_iff (state : ListenerState) :
    Presents objects status state.query (ListenerReports (objects.listener state.asRaw)) ↔
      (statusToResult status = .ok () →
        ∀ address, socketAddrOf (objects.listener state.asRaw).sockaddr = some address →
          Unscoped address) := by
  refine (presents_iff rfl).trans (imp_congr_right fun _ => ?_)
  rw [← fromStorage_faithful_iff]
  constructor
  · intro reports
    exact reports.socketAddr.faithful
  · intro faithful
    exact ⟨rfl, faithful, fun unrequested => absurd trivial unrequested⟩

theorem connRequest_query_reports_iff (request : ConnRequest) (fields : BitVec 64) :
    Presents objects status (request.query fields)
        (ConnRequestReports fields (objects.connRequest request.handle)) ↔
      (statusToResult status = .ok () →
        containsFlags fields ConnRequestFields.clientAddr = true →
        ∀ address,
          socketAddrOf (objects.connRequest request.handle).clientAddress = some address →
            Unscoped address) := by
  refine (presents_iff rfl).trans (imp_congr_right fun _ => ?_)
  constructor
  · intro reports contains
    rw [← fromStorage_faithful_iff]
    intro address found
    apply reports.clientAddress.faithful
    change (whenSelected _ _ (fromStorage (fill _ _ _ _))).join = _
    rw [fill_of_containsFlags (by decide) contains, whenSelected, if_pos contains]
    exact found
  · intro unscoped
    refine ⟨⟨?_, ?_⟩, reports_fill (by decide) id _ _⟩
    · intro address presented
      obtain ⟨contains, found⟩ :=
        Option.ite_none_right_eq_some.mp (Option.join_eq_some_iff.mp presented)
      refine (fromStorage_faithful_iff _).mpr (unscoped contains) address ?_
      change some (fromStorage (fill _ _ _ _)) = _ at found
      rw [fill_of_containsFlags (by decide) contains] at found
      exact Option.some.inj found
    · intro unselected
      change (whenSelected _ _ (fromStorage (fill _ _ _ _))).join = _
      rw [whenSelected, if_neg fun contains =>
        unselected (ne_zero_of_containsFlags (by decide) contains)]
      rfl

theorem memHandle_query_reports_iff (memh : MemHandle) :
    Presents objects status memh.query (MemReports (objects.mem memh.handle)) ↔
      (statusToResult status = .ok () →
        (objects.mem memh.handle).address = 0 ∧ (objects.mem memh.handle).length = 0 ∧
          MemoryType.fromFfi (objects.mem memh.handle).memType = .host) := by
  -- no bit of the zero mask selects a field, so the zeroed block comes back
  have executed : (memh.query.execute (querying objects status) []).result =
      some ((statusToResult status).map fun _ => ⟨0, 0, .host⟩) := by
    unfold MemHandle.query
    rw [call_bind, execute_issue_some rfl]
    cases found : statusToResult status with
    | error error => simp only [found]; rfl
    | ok success => simp only [found]; rfl
  refine (presents_iff executed).trans (imp_congr_right fun _ => ?_)
  constructor
  · rintro ⟨address, length, memType⟩
    exact ⟨address.symm, length.symm, memType.symm⟩
  · rintro ⟨address, length, memType⟩
    exact ⟨address.symm, length.symm, memType.symm⟩

end Queries

/-- Whatever UCX holds and whichever status it answers with, the queries of workers
and endpoints report it for every mask; those of listeners and connection requests
do exactly if no address has a flow label or a scope; and that of a memory handle
does exactly for a region at the null address, with no length, in host memory.  The
names of workers and endpoints are decoded; one that is UTF-8 up to its zero is shown
as it is. -/
theorem queries_report_iff (objects : UcxObjects) (status : UcsStatus) (worker : Worker)
    (ep : Ep) (state : ListenerState) (request : ConnRequest) (memh : MemHandle)
    (workerMask epMask requestMask : BitVec 64) :
    Presents objects status (worker.query workerMask)
      (WorkerReports workerMask (objects.worker worker.handle)) ∧
    Presents objects status (ep.query epMask) (EpReports epMask (objects.ep ep.handle)) ∧
    (Presents objects status state.query (ListenerReports (objects.listener state.asRaw)) ↔
      (statusToResult status = .ok () →
        ∀ address, socketAddrOf (objects.listener state.asRaw).sockaddr = some address →
          Unscoped address)) ∧
    (Presents objects status (request.query requestMask)
        (ConnRequestReports requestMask (objects.connRequest request.handle)) ↔
      (statusToResult status = .ok () →
        containsFlags requestMask ConnRequestFields.clientAddr = true →
        ∀ address,
          socketAddrOf (objects.connRequest request.handle).clientAddress = some address →
            Unscoped address)) ∧
    (Presents objects status memh.query (MemReports (objects.mem memh.handle)) ↔
      (statusToResult status = .ok () →
        (objects.mem memh.handle).address = 0 ∧ (objects.mem memh.handle).length = 0 ∧
          MemoryType.fromFfi (objects.mem memh.handle).memType = .host)) ∧
    (∀ name, HoldsName (objects.worker worker.handle).name name →
      Presents objects status (worker.query workerMask) fun attr =>
        ∀ shown, attr.name = some shown → shown = name) ∧
    (∀ name, HoldsName (objects.ep ep.handle).name name →
      Presents objects status (ep.query epMask) fun attr =>
        epMask &&& EpAttrFields.name ≠ 0 → attr.name = name) :=
  ⟨worker_query_reports worker workerMask, ep_query_reports ep epMask,
    listener_query_reports_iff state, connRequest_query_reports_iff request requestMask,
    memHandle_query_reports_iff memh,
    fun _ holds attr shown => worker_query_shows_name holds attr shown,
    fun _ holds attr shown => ep_query_shows_name holds attr shown⟩

/-- A world with one mapped page of CUDA memory. -/
def mappedPage : UcxObjects where
  worker _ := .zeroed
  ep _ := .zeroed
  listener _ := .zeroed
  connRequest _ := .zeroed
  mem _ := ⟨7, 0x7000, 4096, .cuda⟩

/-- The query of a mapped page answers with a null address, no bytes and host memory. -/
theorem mapped_page_misreported :
    (MemHandle.query ⟨⟨1⟩, ⟨2⟩⟩).execute (querying mappedPage .ok) [] =
        ⟨some (.ok ⟨0, 0, .host⟩), [.ucpMemQuery ⟨2⟩ .zeroed]⟩ ∧
      ¬ Presents mappedPage .ok (MemHandle.query ⟨⟨1⟩, ⟨2⟩⟩)
        (MemReports (mappedPage.mem ⟨2⟩)) := by
  refine ⟨rfl, fun reports => ?_⟩
  have address := (reports ⟨0, 0, .host⟩ rfl).address
  exact absurd address (by decide)

end QueryReports

end UcxRs
