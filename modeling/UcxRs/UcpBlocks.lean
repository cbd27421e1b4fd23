import UcxRs.UcsStatus

/-!
# Handles and blocks of UCP

UCP objects are opaque handles.  Parameters travel to UCX in C structs, and
attributes come back in them; both begin with a mask that selects the fields
that are looked at.  The structs are modelled field by field: a pointer or a
callback is a word, zero is null, and a C array is a vector.
-/

namespace UcxRs

/-- `ucp_worker_h`. -/
structure WorkerHandle where
  address : Word
  deriving DecidableEq, Repr

/-- `ucp_ep_h`. -/
structure EpHandle where
  address : Word
  deriving DecidableEq, Repr

/-- `ucp_rkey_h`. -/
structure RkeyHandle where
  address : Word
  deriving DecidableEq, Repr

/-- `ucp_tag_message_h`. -/
structure MessagePointer where
  address : Word
  deriving DecidableEq, Repr

/-- `ucp_conn_request_h`. -/
structure ConnRequestPointer where
  address : Word
  deriving DecidableEq, Repr

/-- `ucp_listener_h`, which the wrapper also keeps as a `usize`. -/
structure ListenerHandle where
  address : Word
  deriving DecidableEq, Repr

/-- `ucp_context_h`. -/
structure ContextHandle where
  address : Word
  deriving DecidableEq, Repr

/-- `*mut ucp_config_t`. -/
structure ConfigHandle where
  address : Word
  deriving DecidableEq, Repr

/-- `ucp_mem_h`. -/
structure MemPointer where
  address : Word
  deriving DecidableEq, Repr

/-- `*mut ucp_address_t`. -/
structure AddressPointer where
  address : Word
  deriving DecidableEq, Repr

/-- The `Arc<AtomicBool>` that a worker shares with its endpoints and remote
keys, identified by its allocation. -/
structure AliveFlag where
  allocation : Nat
  deriving DecidableEq, Repr

/-- A slice as UCX sees it: an address and a length in bytes. -/
structure Buffer where
  address : Word
  length : Nat
  deriving DecidableEq, Repr

/-- `ucs_memory_type_t`. -/
inductive UcsMemoryType where
  | host
  | cuda
  | cudaManaged
  | rocm
  | rocmManaged
  | rdma
  | zeHost
  | zeDevice
  | zeManaged
  | last
  deriving DecidableEq, Repr

/-- `ucp_request_param_t`.  Callbacks and pointers are words; zero is null. -/
structure UcpRequestParam where
  opAttrMask : BitVec 32
  flags : BitVec 32
  request : Word
  cb : Word
  datatype : Word
  userData : Word
  replyBuffer : Word
  memoryType : UcsMemoryType
  recvInfo : Word
  memh : Word
  deriving DecidableEq, Repr

/-- `std::mem::zeroed::<ucp_request_param_t>()`. -/
def UcpRequestParam.zeroed : UcpRequestParam where
  opAttrMask := 0
  flags := 0
  request := 0
  cb := 0
  datatype := 0
  userData := 0
  replyBuffer := 0
  memoryType := .host
  recvInfo := 0
  memh := 0

/-- `ucs_sock_addr_t`. -/
structure UcsSockAddr where
  addr : Word
  addrlen : BitVec 32
  deriving DecidableEq, Repr

/-- `ucp_err_handling_mode_t`. -/
inductive UcpErrHandlingMode where
  | none
  | peer
  deriving DecidableEq, Repr

/-- `ucp_err_handler_t`. -/
structure UcpErrHandler where
  cb : Word
  arg : Word
  deriving DecidableEq, Repr

/-- `ucp_ep_params_t`. -/
structure UcpEpParams where
  fieldMask : BitVec 64
  address : Word
  errMode : UcpErrHandlingMode
  errHandler : UcpErrHandler
  userData : Word
  flags : BitVec 32
  sockaddr : UcsSockAddr
  connRequest : ConnRequestPointer
  name : Word
  localSockaddr : UcsSockAddr
  deriving DecidableEq, Repr

/-- `std::mem::zeroed::<ucp_ep_params_t>()`. -/
def UcpEpParams.zeroed : UcpEpParams where
  fieldMask := 0
  address := 0
  errMode := .none
  errHandler := ⟨0, 0⟩
  userData := 0
  flags := 0
  sockaddr := ⟨0, 0⟩
  connRequest := ⟨0⟩
  name := 0
  localSockaddr := ⟨0, 0⟩

/-- `ucp_tag_recv_info_t`. -/
structure UcpTagRecvInfo where
  senderTag : Word
  length : Nat
  deriving DecidableEq, Repr

/-- `std::mem::zeroed::<ucp_tag_recv_info_t>()`. -/
def UcpTagRecvInfo.zeroed : UcpTagRecvInfo where
  senderTag := 0
  length := 0

/-- `ucp_atomic_op_t`. -/
inductive UcpAtomicOp where
  | add
  | swap
  | cswap
  | and
  | or
  | xor
  deriving DecidableEq, Repr

/-- `ucs_thread_mode_t`. -/
inductive UcsThreadMode where
  | single
  | serialized
  | multi
  | last
  deriving DecidableEq, Repr

/-- `ucs_cpu_set_t`. -/
structure UcsCpuSet where
  bits : Vector (BitVec 64) 16
  deriving DecidableEq, Repr

/-- `ucp_params_t`. -/
structure UcpParams where
  fieldMask : BitVec 64
  features : BitVec 64
  requestSize : Nat
  requestInit : Word
  requestCleanup : Word
  tagSenderMask : BitVec 64
  mtWorkersShared : BitVec 32
  estimatedNumEps : Nat
  estimatedNumPpn : Nat
  name : Word
  deriving DecidableEq, Repr

/-- `std::mem::zeroed::<ucp_params_t>()`. -/
def UcpParams.zeroed : UcpParams where
  fieldMask := 0
  features := 0
  requestSize := 0
  requestInit := 0
  requestCleanup := 0
  tagSenderMask := 0
  mtWorkersShared := 0
  estimatedNumEps := 0
  estimatedNumPpn := 0
  name := 0

/-- `ucp_worker_params_t`. -/
structure UcpWorkerParams where
  fieldMask : BitVec 64
  threadMode : UcsThreadMode
  cpuMask : UcsCpuSet
  events : BitVec 32
  userData : Word
  eventFd : BitVec 32
  flags : BitVec 64
  name : Word
  amAlignment : Nat
  clientId : BitVec 64
  deriving DecidableEq, Repr

/-- `std::mem::zeroed::<ucp_worker_params_t>()`. -/
def UcpWorkerParams.zeroed : UcpWorkerParams where
  fieldMask := 0
  threadMode := .single
  cpuMask := ⟨.replicate 16 0⟩
  events := 0
  userData := 0
  eventFd := 0
  flags := 0
  name := 0
  amAlignment := 0
  clientId := 0

/-- `ucp_listener_accept_handler`, and `ucp_listener_conn_handler`. -/
structure UcpListenerHandler where
  cb : Word
  arg : Word
  deriving DecidableEq, Repr

/-- `ucp_listener_params`. -/
structure UcpListenerParams where
  fieldMask : BitVec 64
  sockaddr : UcsSockAddr
  acceptHandler : UcpListenerHandler
  connHandler : UcpListenerHandler
  deriving DecidableEq, Repr

/-- `MaybeUninit::<ucp_listener_params>::zeroed()`. -/
def UcpListenerParams.zeroed : UcpListenerParams where
  fieldMask := 0
  sockaddr := ⟨0, 0⟩
  acceptHandler := ⟨0, 0⟩
  connHandler := ⟨0, 0⟩

/-- `ucp_mem_map_params_t`. -/
structure UcpMemMapParams where
  fieldMask : BitVec 64
  address : Word
  length : Nat
  flags : BitVec 32
  prot : BitVec 32
  memoryType : UcsMemoryType
  exportedMemhBuffer : Word
  deriving DecidableEq, Repr

/-- `std::mem::zeroed::<ucp_mem_map_params_t>()`. -/
def UcpMemMapParams.zeroed : UcpMemMapParams where
  fieldMask := 0
  address := 0
  length := 0
  flags := 0
  prot := 0
  memoryType := .host
  exportedMemhBuffer := 0

/-- `ucp_mem_advice_t`. -/
inductive UcpMemAdvice where
  | normal
  | willNeed
  deriving DecidableEq, Repr

/-- `ucp_mem_advise_params_t`. -/
structure UcpMemAdviseParams where
  fieldMask : BitVec 64
  address : Word
  length : Nat
  advice : UcpMemAdvice
  deriving DecidableEq, Repr

/-- `std::mem::zeroed::<ucp_mem_advise_params_t>()`. -/
def UcpMemAdviseParams.zeroed : UcpMemAdviseParams where
  fieldMask := 0
  address := 0
  length := 0
  advice := .normal

/-- `ucp_memh_pack_params_t`. -/
structure UcpMemhPackParams where
  fieldMask : BitVec 64
  flags : BitVec 64
  deriving DecidableEq, Repr

/-- `std::mem::zeroed::<ucp_memh_pack_params_t>()`. -/
def UcpMemhPackParams.zeroed : UcpMemhPackParams where
  fieldMask := 0
  flags := 0

/-- `ucp_rkey_compare_params_t`. -/
structure UcpRkeyCompareParams where
  fieldMask : BitVec 64
  deriving DecidableEq, Repr

/-- `ucp_am_handler_param_t`. -/
structure UcpAmHandlerParam where
  fieldMask : BitVec 64
  id : BitVec 32
  flags : BitVec 32
  cb : Word
  arg : Word
  deriving DecidableEq, Repr

/-- `std::mem::zeroed::<ucp_am_handler_param_t>()`. -/
def UcpAmHandlerParam.zeroed : UcpAmHandlerParam where
  fieldMask := 0
  id := 0
  flags := 0
  cb := 0
  arg := 0

/-- `ucp_stream_poll_ep_t`. -/
structure UcpStreamPollEp where
  ep : EpHandle
  userData : Word
  flags : BitVec 32
  reserved : Vector (BitVec 8) 16
  deriving DecidableEq, Repr

/-- `std::mem::zeroed::<ucp_stream_poll_ep_t>()`. -/
def UcpStreamPollEp.zeroed : UcpStreamPollEp where
  ep := ⟨0⟩
  userData := 0
  flags := 0
  reserved := .replicate 16 0

/-- `sockaddr_storage`: the address family and the bytes after it. -/
structure SockaddrStorage where
  ssFamily : BitVec 16
  data : Vector (BitVec 8) 126
  deriving DecidableEq, Repr

def SockaddrStorage.zeroed : SockaddrStorage where
  ssFamily := 0
  data := .replicate 126 0

/-- `ucp_transports_t`. -/
structure UcpTransports where
  entries : Word
  numEntries : BitVec 32
  entrySize : Nat
  deriving DecidableEq, Repr

/-- `ucp_worker_attr`. -/
structure UcpWorkerAttr where
  fieldMask : BitVec 64
  threadMode : UcsThreadMode
  addressFlags : BitVec 32
  address : AddressPointer
  addressLength : Nat
  maxAmHeader : Nat
  name : Vector (BitVec 8) 32
  maxDebugString : Nat
  deriving DecidableEq, Repr

/-- `std::mem::zeroed::<ucp_worker_attr>()`. -/
def UcpWorkerAttr.zeroed : UcpWorkerAttr where
  fieldMask := 0
  threadMode := .single
  addressFlags := 0
  address := ⟨0⟩
  addressLength := 0
  maxAmHeader := 0
  name := .replicate 32 0
  maxDebugString := 0

/-- `ucp_ep_attr`. -/
structure UcpEpAttr where
  fieldMask : BitVec 64
  name : Vector (BitVec 8) 32
  localSockaddr : SockaddrStorage
  remoteSockaddr : SockaddrStorage
  transports : UcpTransports
  userData : Word
  deriving DecidableEq, Repr

/-- `std::mem::zeroed::<ucp_ep_attr>()`. -/
def UcpEpAttr.zeroed : UcpEpAttr where
  fieldMask := 0
  name := .replicate 32 0
  localSockaddr := .zeroed
  remoteSockaddr := .zeroed
  transports := ⟨0, 0, 0⟩
  userData := 0

/-- `ucp_listener_attr`. -/
structure UcpListenerAttr where
  fieldMask : BitVec 64
  sockaddr : SockaddrStorage
  deriving DecidableEq, Repr

/-- `MaybeUninit::<ucp_listener_attr>::zeroed()`. -/
def UcpListenerAttr.zeroed : UcpListenerAttr where
  fieldMask := 0
  sockaddr := .zeroed

/-- `ucp_conn_request_attr`. -/
structure UcpConnRequestAttr where
  fieldMask : BitVec 64
  clientAddress : SockaddrStorage
  clientId : BitVec 64
  deriving DecidableEq, Repr

/-- `MaybeUninit::<ucp_conn_request_attr>::zeroed()`. -/
def UcpConnRequestAttr.zeroed : UcpConnRequestAttr where
  fieldMask := 0
  clientAddress := .zeroed
  clientId := 0

/-- `ucp_mem_attr_t`. -/
structure UcpMemAttr where
  fieldMask : BitVec 64
  address : Word
  length : Nat
  memType : UcsMemoryType
  deriving DecidableEq, Repr

/-- `std::mem::zeroed::<ucp_mem_attr_t>()`. -/
def UcpMemAttr.zeroed : UcpMemAttr where
  fieldMask := 0
  address := 0
  length := 0
  memType := .host

end UcxRs
